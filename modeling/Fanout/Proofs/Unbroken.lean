import Fanout.Proofs.EndOfStream
import Fanout.Proofs.Lifecycle

/-!
No round breaks a rule of use. Every pair has a slot, every parser stands within what was received
and every buffer that is received into is in write mode; so nothing is swallowed where the rules
would have an operation stop, and what is said of rounds is said of all that they do.
-/

set_option autoImplicit false

namespace Fanout

variable {Net Sock : Type} {transport : Transport Net Sock}

/-! ### Receiving -/

/-- Who can receive may run short of memory or have an error of its source, and breaks no rule. -/
theorem Buffer.Receptive.rule_of_receive {σ : Type} {before : Metered Buffer}
    (receptive : before.item.Receptive) (source : σ → Nat → ReceiveAnswer × σ) (peer : σ)
    {failure : Failure} (failed : (Buffer.receive source peer before).1 = .error failure) :
    failure.rule? = none := by
  rcases Buffer.receive_cases receptive source peer with refused | ⟨ready, asks⟩
  · rw [refused] at failed
    cases failed
    rfl
  · cases answers : source peer ready.item.remaining with
    | mk answer later =>
        cases answer with
        | fails error =>
            rw [asks.fails error later answers] at failed
            cases failed
            rfl
        | delivers bytes =>
            obtain ⟨after, received, _⟩ := asks.delivers bytes later answers
            rw [received] at failed
            cases failed

namespace Intake

variable {intake next : Intake Sock} {parser : Parser} {result : Except Failure Nat}

theorem breach_receive (got : receive transport intake = (result, next)) :
    next.breach = intake.breach := by
  unfold receive at got
  cases got
  rfl

theorem run_unbroken (transport : Transport Net Sock) (abreast : intake.Abreast)
    (unbroken : intake.breach = none) : (intake.run transport).2.breach = none := by
  fun_induction run transport intake with
  | case1 intake done => exact unbroken
  | case2 intake busy parser reply ran ih => exact ih (abreast.answered ran) unbroken
  | case3 intake busy parser error ran => exact unbroken
  | case4 intake busy parser ran next received => exact (breach_receive received).trans unbroken
  | case5 intake busy parser ran count next received ih =>
      exact ih (abreast.received ran received) ((breach_receive received).trans unbroken)
  | case6 intake busy parser ran next received => exact (breach_receive received).trans unbroken
  | case7 intake busy parser ran next received ih =>
      exact ih (abreast.received ran received) ((breach_receive received).trans unbroken)
  | case8 intake busy parser ran failure next blocked interrupted received =>
      have none : failure.rule? = none :=
        @Buffer.Receptive.rule_of_receive _ ⟨intake.batch.readBuffer, intake.memory⟩
          abreast.receptive transport.receive intake.socket _ (congrArg Prod.fst received)
      unfold noted
      rw [none, breach_receive received, unbroken]
      rfl

/-- A parser that stands within what was received is let in. -/
theorem rejected_abreast {parser : Parser} {batch : Batch}
    (abreast : Fanout.Abreast parser batch.readBuffer) : rejected parser batch = none := by
  unfold rejected Parser.execute
  rw [if_pos abreast.behind]
  split <;> rfl

end Intake

/-! ### Turns -/

namespace Turn

variable {before after turn : Turn Net Sock}

theorem forget_breach (seated : turn.Seated) : turn.forget.breach = turn.breach := by
  obtain ⟨slot, there, _⟩ := exists_slot seated
  obtain ⟨interests, forgets, _⟩ := Interests.forget_ok there
  unfold forget
  rw [forgets]
  exact Option.or_none

theorem dropSocket_breach (transport : Transport Net Sock) (seated : turn.Seated) :
    (turn.dropSocket transport).breach = turn.breach := by
  unfold dropSocket
  split
  · rfl
  · exact forget_breach seated

theorem abort_breach (transport : Transport Net Sock) (seated : turn.Seated) (cause : AbortCause) :
    (turn.abort transport cause).breach = turn.breach := by
  unfold abort
  split
  · rfl
  · exact dropSocket_breach transport seated

theorem leave_breach (transport : Transport Net Sock) (seated : turn.Seated) :
    (turn.leave transport).breach = turn.breach := by
  unfold leave finish
  cases turn.connection.link.socket? with
  | none => rfl
  | some socket => exact forget_breach seated

structure Orderly (turn : Turn Net Sock) : Prop where
  seated : turn.Seated
  abreast : turn.Sound Abreast
  unbroken : turn.breach = none

theorem withIntake_unbroken {socket : Sock} (orderly : turn.Orderly) :
    (turn.withIntake ((turn.intake socket).run transport).2).breach = none := by
  have fresh : (turn.intake socket).breach = none := Intake.rejected_abreast orderly.abreast
  have held : (turn.intake socket).Abreast := orderly.abreast
  have ran := Intake.run_unbroken transport held fresh
  unfold withIntake
  dsimp only
  rw [orderly.unbroken, ran]
  rfl

theorem Move.orderly {bytes : ByteArray} (orderly : before.Orderly)
    (move : Move transport before bytes after) : after.Orderly := by
  refine ⟨(frames_move move).seated orderly.seated,
    (move.changes follows_abreast orderly.abreast).2, ?_⟩
  have unbroken := orderly.unbroken
  cases move with
  | @unreachable dialing network cause closed dials =>
      exact (@abort_breach _ _ { before with network := network } transport orderly.seated
        cause).trans unbroken
  | opened closed dials => exact unbroken
  | shaken connecting shakes => exact unbroken
  | established connecting shakes => exact unbroken
  | asked known asks => exact unbroken
  | sent connected sends => exact unbroken
  | @received socket ended intake connected runs fine =>
      have received := @withIntake_unbroken _ _ transport before socket orderly
      rwa [runs] at received
  | @lost socket cause intake connected runs =>
      have received := @withIntake_unbroken _ _ transport before socket orderly
      rw [runs] at received
      exact (@abort_breach _ _ (before.withIntake intake) transport orderly.seated cause).trans
        received
  | gaveUp alive => exact (abort_breach transport orderly.seated _).trans unbroken
  | @broke socket event rule known asks =>
      obtain ⟨slot, there, _⟩ := exists_slot orderly.seated
      obtain ⟨interests, answer, _⟩ := Interests.notify_eq there event transport.watch socket
      cases answer.symm.trans asks

theorem Moves.orderly {bytes : ByteArray} (orderly : before.Orderly)
    (moves : Moves transport before bytes after) : after.Orderly := by
  induction moves with
  | refl => exact orderly
  | step moves busy move ih => exact move.orderly ih

end Turn

/-! ### Rounds -/

namespace Round

variable {round : Round Net Sock} {ordinal : Nat} {pair : Pair Sock}
  {act : Turn Net Sock → Turn Net Sock}

structure Orderly (round : Round Net Sock) : Prop where
  counted : round.Counted
  abreast : ∀ (ordinal : Nat) (pair : Pair Sock), round.pairs[ordinal]? = some pair →
    pair.batch.hasPending = true → Abreast pair.connection.parser pair.batch.readBuffer
  unbroken : round.breach = none

theorem turn_breach (present : round.pairs[ordinal]? = some pair) :
    (round.turn ordinal act).breach = (act (round.seat ordinal pair)).breach := by
  unfold turn
  rw [present]
  rfl

theorem handle_orderly (orderly : round.Orderly) (event : Readiness) (ordinal : Nat) :
    (round.turnIfPending ordinal fun turn => turn.handle transport event).Orderly := by
  have counted := turnIfPending_counted (@framed_handle _ _ transport event) orderly.counted ordinal
  rcases turnIfPending_cases round ordinal (Turn.handle transport · event) with
    ⟨_, same⟩ | ⟨pair, present, busy, same⟩
  · rw [same] at counted ⊢
    exact orderly
  · obtain ⟨slot, there⟩ := orderly.counted.slot present
    have seat : (round.seat ordinal pair).Orderly :=
      ⟨seat_seated there, orderly.abreast ordinal pair present (decide_eq_true busy),
        orderly.unbroken⟩
    have ended := (@Turn.handle_moves _ _ transport _ busy event).orderly seat
    rw [same] at counted ⊢
    refine ⟨counted, ?_, (turn_breach present).trans ended.unbroken⟩
    intro other after found missing
    by_cases own : other = ordinal
    · subst own
      rw [turn_own present] at found
      cases found
      exact ended.abreast
    · rw [turn_others own] at found
      exact orderly.abreast other after found missing

theorem leave_orderly (transport : Transport Net Sock) (orderly : round.Orderly) (ordinal : Nat) :
    (round.turn ordinal (Turn.leave transport)).Orderly := by
  cases present : round.pairs[ordinal]? with
  | none =>
      rw [turn_of_none present]
      exact orderly
  | some pair =>
      obtain ⟨slot, there⟩ := orderly.counted.slot present
      have left := @Turn.leave_breach _ _ (round.seat ordinal pair) transport (seat_seated there)
      refine ⟨turn_counted present (Turn.frames_leave transport _) orderly.counted, ?_, ?_⟩
      · rw [leave_pairs]
        exact orderly.abreast
      · exact (turn_breach present).trans (left.trans orderly.unbroken)

theorem apply_orderly (transport : Transport Net Sock) (orderly : round.Orderly)
    (step : Step Net) : (round.apply transport step).Orderly := by
  cases step with
  | wait network =>
      exact ⟨⟨orderly.counted.slots, orderly.counted.balanced⟩, orderly.abreast, orderly.unbroken⟩
  | deliver event =>
      have dropped : (round.dropHit event).Orderly :=
        ⟨dropHit_counted orderly.counted event, orderly.abreast, orderly.unbroken⟩
      change (round.deliver transport event).Orderly
      rw [deliver_eq]
      split
      · exact dropped
      · exact handle_orderly dropped _ _
  | sweep ordinal event =>
      have dropped : (round.dropWanted ordinal).Orderly :=
        ⟨dropHit_counted orderly.counted (ordinal, .io), orderly.abreast, orderly.unbroken⟩
      exact handle_orderly dropped event ordinal
  | finish ordinal => exact leave_orderly transport orderly ordinal

theorem replay_orderly (transport : Transport Net Sock) (orderly : round.Orderly)
    (steps : List (Step Net)) : (round.replay transport steps).Orderly := by
  induction steps generalizing round with
  | nil => exact orderly
  | cons step steps ih => exact ih (apply_orderly transport orderly step)

structure Entering (round : Round Net Sock) : Prop where
  counted : round.Counted
  receptive : ∀ (ordinal : Nat) (pair : Pair Sock), round.pairs[ordinal]? = some pair →
    pair.batch.readBuffer.Receptive
  unbroken : round.breach = none

theorem start_seat (transport : Transport Net Sock) (entering : round.Entering)
    (present : round.pairs[ordinal]? = some pair)
    (busy : 0 < (round.seat ordinal pair).batch.pending) :
    ((round.seat ordinal pair).start transport).Orderly := by
  obtain ⟨slot, there⟩ := entering.counted.slot present
  have receptive := entering.receptive ordinal pair present
  rw [← pair.prepared_batch.1] at receptive
  have prepared : (round.seat ordinal pair).prepare.Orderly :=
    ⟨@seat_seated _ _ _ _ pair _ there, ⟨Parser.sound_new, Nat.zero_le _, receptive⟩,
      entering.unbroken⟩
  exact (@Turn.start_moves _ _ transport _ busy).orderly prepared

theorem start_entering (transport : Transport Net Sock) (entering : round.Entering)
    (ordinal : Nat) : (round.turnIfPending ordinal (Turn.start transport)).Entering := by
  have counted := turnIfPending_counted (@framed_start _ _ transport) entering.counted ordinal
  rcases turnIfPending_cases round ordinal (Turn.start transport) with
    ⟨_, same⟩ | ⟨pair, present, busy, same⟩
  · rw [same]
    exact entering
  · have started := start_seat transport entering present busy
    rw [same] at counted ⊢
    refine ⟨counted, ?_, (turn_breach present).trans started.unbroken⟩
    intro other after found
    by_cases own : other = ordinal
    · subst own
      rw [turn_own present] at found
      cases found
      exact started.abreast.receptive
    · rw [turn_others own] at found
      exact entering.receptive other after found

theorem atStart_entering (transport : Transport Net Sock) (entering : round.Entering)
    (count : Nat) : (round.atStart transport count).Entering := by
  induction count with
  | zero => exact entering
  | succ count ih =>
      rw [atStart_succ]
      exact start_entering transport ih count

theorem startAll_orderly (transport : Transport Net Sock) (entering : round.Entering) :
    (round.startAll transport).Orderly := by
  have started := atStart_entering transport entering round.pairs.length
  refine ⟨started.counted, ?_, started.unbroken⟩
  intro ordinal after found missing
  have inside := (List.getElem?_eq_some_iff.mp found).1
  rw [length_startAll] at inside
  have present := List.getElem?_eq_getElem inside
  have receptive := entering.receptive ordinal _ present
  cases busy : round.pairs[ordinal].batch.hasPending with
  | false =>
      rw [startAll_idle present busy] at found
      cases found
      rw [busy] at missing
      cases missing
  | true =>
      obtain ⟨begun, there, served⟩ := @startAll_begins _ _ transport _ _ inside _ present busy
      cases there.symm.trans found
      rw [← Pair.prepared_batch _ |>.1] at receptive
      exact served.follows follows_abreast ⟨Parser.sound_new, Nat.zero_le _, receptive⟩

theorem add_breach (round : Round Net Sock) (pair : Pair Sock) :
    (round.add pair).2.breach = round.breach := by
  unfold add
  dsimp only
  split <;> rfl

theorem enlist_breach (engine : Engine) (network : Net) (pairs : List (Pair Sock)) :
    (enlist engine network pairs).breach = none := by
  unfold enlist
  suffices kept : ∀ round : Round Net Sock,
      (pairs.foldl (fun round pair => (round.add pair).2) round).breach = round.breach from
    kept (new engine network)
  induction pairs with
  | nil => exact fun _ => rfl
  | cons pair pairs ih =>
      intro round
      rw [List.foldl_cons, ih, add_breach]

theorem record_breach (round : Round Net Sock) (outcome : Outcome) :
    (round.record outcome).breach = round.breach := by
  cases outcome <;> rfl

/-- No rule is broken in a round of batches that can receive. -/
theorem execute_unbroken (transport : Transport Net Sock) (engine : Engine) (network : Net)
    (pairs : List (Pair Sock)) (timeout : Duration)
    (receptive : ∀ pair ∈ (enlist engine network pairs).pairs, pair.batch.readBuffer.Receptive) :
    ((enlist engine network pairs).execute transport timeout).2.breach = none := by
  have entering : (enlist engine network pairs).Entering :=
    ⟨enlist_counted engine network pairs,
      fun _ pair present => receptive pair (List.mem_of_getElem? present),
      enlist_breach engine network pairs⟩
  have ended := replay_orderly transport (startAll_orderly transport entering)
    ((enlist engine network pairs).steps transport timeout)
  rw [execute_eq_replay, record_breach]
  exact ended.unbroken

end Round

/-- Whatever was done with the batches of a session before, no round of them breaks a rule. -/
theorem Session.execute_unbroken (transport : Transport Net Sock) (config : Config)
    (acts : List (Act Net Sock)) (engine : Engine) (network : Net) (pairs : List (Pair Sock))
    (timeout : Duration)
    (held : ∀ pair ∈ (Round.enlist engine network pairs).pairs,
      pair.batch ∈ (run transport config acts).held) :
    ((Round.enlist engine network pairs).execute transport timeout).2.breach = none := by
  apply Round.execute_unbroken
  intro pair among
  have every := @Moment.every _ _ transport config _ _ (Batch.standing_receptive config)
    (.between acts)
  exact every.held _ (held pair among)

end Fanout
