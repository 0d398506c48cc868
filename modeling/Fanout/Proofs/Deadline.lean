import Fanout.Proofs.Heads
import Fanout.Proofs.Lifecycle

/-!
The deadline. When the time is up, the pairs that still wait for replies give up, and nobody else:
who is answered keeps the replies and the socket, and who had nothing pending takes no part in the
round at all. As long as there is time, no pair is told that it ran out.
-/

set_option autoImplicit false

namespace Fanout

variable {Net Sock : Type} {transport : Transport Net Sock}

/-! ### Late pairs -/

namespace Pair

def errorText (pair : Pair Sock) (detail : String) : String :=
  let address := pair.connection.endpoint.render
  Text.truncate s!"Connection error {detail} [addr: {address}]" pair.connection.maxErrorLength

/-- A pair that is late with its replies loses its socket, and every command that is pending is
answered by an error reply behind the replies that were received. -/
structure Late (detail : String) (before after : Pair Sock) : Prop where
  connection : after.connection = { before.connection with link := .aborted }
  batch : after.batch = { before.batch with
    pending := 0
    replies := before.batch.replies ++
      Array.replicate before.batch.pending (.aborted (before.errorText detail).utf8ByteSize)
    abortText := some (before.errorText detail)
    countable := Nat.zero_le _ }

/-- What a pair is late with. -/
def lateness (pair : Pair Sock) : AbortCause :=
  if pair.connection.link.isConnecting then .connectTimeout else .transferTimeout

end Pair

namespace Turn

variable {turn : Turn Net Sock}

theorem abort_connection (transport : Transport Net Sock)
    (alive : turn.connection.link.isAborted = false) (cause : AbortCause) :
    (turn.abort transport cause).connection = { turn.connection with link := .aborted } := by
  unfold abort dropSocket withLink
  rw [alive, if_neg Bool.false_ne_true]
  dsimp only
  split <;> rfl

theorem handle_timedOut (transport : Transport Net Sock)
    (alive : turn.connection.link.isAborted = false) :
    turn.handle transport .timedOut = turn.abort transport turn.pair.lateness := by
  unfold handle
  rw [alive]
  rfl

theorem timedOut_late (transport : Transport Net Sock)
    (alive : turn.connection.link.isAborted = false) (plain : turn.batch.isAborted = false) :
    turn.pair.Late turn.pair.lateness.detail (turn.handle transport .timedOut).pair := by
  rw [handle_timedOut transport alive]
  constructor
  · exact abort_connection transport alive _
  · change (turn.abort transport turn.pair.lateness).batch = _
    rw [abort_batch alive, plain]
    rfl

end Turn

namespace Round

variable {round first head : Round Net Sock} {ordinal : Nat} {pair : Pair Sock}

structure Expires (before after : Option (Pair Sock)) : Prop where
  answered : ∀ pair, before = some pair → pair.batch.hasPending = false → after = some pair
  late : ∀ pair, before = some pair → pair.batch.hasPending = true →
    pair.connection.link.isAborted = false → pair.batch.isAborted = false →
    ∃ last, after = some last ∧ pair.Late pair.lateness.detail last

theorem sweep_expires (transport : Transport Net Sock) (round : Round Net Sock) (ordinal : Nat) :
    Expires round.pairs[ordinal]?
      (round.apply transport (.sweep ordinal .timedOut)).pairs[ordinal]? := by
  constructor
  · intro pair present answered
    exact apply_idle present answered _
  · intro pair present missing alive plain
    change ∃ last, ((round.dropWanted ordinal).turnIfPending ordinal _).pairs[ordinal]? =
      some last ∧ _
    have here : (round.dropWanted ordinal).pairs[ordinal]? = some pair := present
    rw [turnIfPending_of_pending ((isPending_eq here).trans missing), turn_own here]
    exact ⟨_, rfl, @Turn.timedOut_late _ _ ((round.dropWanted ordinal).seat ordinal pair) transport
      alive plain⟩

theorem dispatchAll_expires (transport : Transport Net Sock)
    (inside : ordinal < round.pairs.length) :
    Expires round.pairs[ordinal]? (round.dispatchAll transport .timedOut).pairs[ordinal]? :=
  @eachPair_own _ _ _ _ _ (fun round ordinal => round.pairs[ordinal]?) _ Expires
    (fun round swept _ apart => @turnIfPending_others _ _ (round.dropWanted swept) _ _ apart _)
    (sweep_expires transport) inside

/-! ### While there is time -/

def handed (round : Round Net Sock) : Step Net → Readiness
  | .wait _ => .empty
  | .deliver event => round.hit event
  | .sweep _ event => event
  | .finish _ => .empty

/-- No step tells a pair that the time is up. -/
def Spares (transport : Transport Net Sock) (round : Round Net Sock) (steps : List (Step Net)) :
    Prop :=
  ∀ before step after, steps = before ++ step :: after →
    ((round.replay transport before).handed step).timeout = false

/-- A pair is told of what it asked for only, and it never asks for a timeout. -/
theorem InStep.hit_timeout (inStep : round.InStep) (event : Nat × Readiness) :
    (round.hit event).timeout = false := by
  unfold hit
  cases there : round.interests.slots[event.1]? with
  | none =>
      rw [Interests.consume_of_none there]
      rfl
  | some slot =>
      have inside := (List.getElem?_eq_some_iff.mp there).1
      rw [inStep.counted.slots] at inside
      have tied := inStep.tied event.1 _ slot (Prod.ext (List.getElem?_eq_getElem inside) there)
      rw [Interests.consume_hit there]
      simp only [Readiness.inter, tied.directed.timeout, Bool.and_false]

theorem spares_of_sweeps (inStep : round.InStep) {steps : List (Step Net)}
    (sweeps : ∀ ordinal event, .sweep ordinal event ∈ steps → event.timeout = false) :
    Spares transport round steps := by
  intro before step after split
  have reached := (steady_inStep transport).replay inStep before
  cases step with
  | wait network => rfl
  | deliver event => exact reached.hit_timeout event
  | finish ordinal => rfl
  | sweep ordinal event =>
      apply sweeps ordinal event
      rw [split]
      exact List.mem_append_right _ List.mem_cons_self

theorem mem_sweeps {ordinal : Nat} {event swept : Readiness}
    (among : .sweep ordinal event ∈ round.sweeps swept) : event = swept := by
  obtain ⟨_, _, same⟩ := List.mem_map.mp among
  cases same
  rfl

/-- A loop that ends otherwise sweeps nobody up as late. -/
theorem loopSteps_sweeps (round : Round Net Sock) (remaining : Nat)
    (intime : (round.loop transport remaining).1 ≠ .timedOut) {ordinal : Nat} {event : Readiness}
    (among : .sweep ordinal event ∈ round.loopSteps transport remaining) :
    event.timeout = false := by
  fun_induction loop transport round remaining with
  | case1 round remaining settled =>
      rw [loopSteps, if_pos settled] at among
      cases among
  | case2 round going => exact absurd rfl intime
  | case3 round remaining going more error passed network polled failed =>
      rw [loopSteps, if_neg going, dif_neg more, polled] at among
      rcases List.mem_cons.mp among with waits | swept
      · cases waits
      · rw [mem_sweeps swept]
        rfl
  | case4 round remaining going more passed network polled ih =>
      rw [loopSteps, if_neg going, dif_neg more, polled] at among
      rcases List.mem_cons.mp among with waits | later
      · cases waits
      · exact ih intime later
  | case5 round remaining going more events passed network polled ih =>
      rw [loopSteps, if_neg going, dif_neg more, polled] at among
      rcases List.mem_append.mp among with before | later
      · rcases List.mem_cons.mp before with waits | delivered
        · cases waits
        · obtain ⟨_, _, impossible⟩ := List.mem_map.mp delivered
          cases impossible
      · exact ih intime later

theorem execute_spares (transport : Transport Net Sock) (inStep : round.InStep) (timeout : Duration)
    (intime : (round.execute transport timeout).1 ≠ .timedOut) :
    Spares transport (round.startAll transport) (round.steps transport timeout) := by
  have started := (steady_inStep transport).atStart inStep round.pairs.length
  rw [execute_outcome] at intime
  apply spares_of_sweeps started
  intro ordinal event among
  rcases List.mem_append.mp among with looped | finished
  · exact loopSteps_sweeps _ _ intime looped
  · obtain ⟨_, _, impossible⟩ := List.mem_map.mp finished
    cases impossible

/-! ### The latest error -/

theorem turn_lastError (round : Round Net Sock) (ordinal : Nat)
    (act : Turn Net Sock → Turn Net Sock) :
    (round.turn ordinal act).engine.lastError = round.engine.lastError := by
  unfold turn
  split <;> rfl

theorem turnIfPending_lastError (round : Round Net Sock) (ordinal : Nat)
    (act : Turn Net Sock → Turn Net Sock) :
    (round.turnIfPending ordinal act).engine.lastError = round.engine.lastError := by
  unfold turnIfPending
  split
  · exact turn_lastError round ordinal act
  · rfl

/-- Only the end of a round is remembered as an error. -/
theorem steady_lastError (transport : Transport Net Sock) (text : Option String) :
    Steady transport fun round => round.engine.lastError = text := by
  constructor
  · intro round same ordinal
    rwa [turnIfPending_lastError]
  · intro round same step
    cases step with
    | wait network => exact same
    | deliver event =>
        change (round.deliver transport event).engine.lastError = text
        rw [deliver_eq]
        split
        · exact same
        · rwa [turnIfPending_lastError]
    | sweep ordinal event => exact (turnIfPending_lastError _ _ _).trans same
    | finish ordinal => exact (turn_lastError _ _ _).trans same

theorem replay_lastError (transport : Transport Net Sock) (round : Round Net Sock)
    (steps : List (Step Net)) :
    ((round.startAll transport).replay transport steps).engine.lastError =
      round.engine.lastError := by
  have steady := steady_lastError transport round.engine.lastError
  have started := steady.atStart rfl round.pairs.length
  exact steady.replay started steps

theorem execute_completed (transport : Transport Net Sock) (round : Round Net Sock)
    (timeout : Duration)
    (completed : (round.execute transport timeout).1 = .completed) :
    (round.execute transport timeout).2.engine.lastError = round.engine.lastError := by
  rw [execute_eq_replay, completed]
  exact replay_lastError transport round _

theorem execute_timedOut (transport : Transport Net Sock) (round : Round Net Sock)
    (timeout : Duration)
    (late : (round.execute transport timeout).1 = .timedOut) :
    (round.execute transport timeout).2.engine.lastError =
      some (Text.truncate "Execute timeout" round.engine.config.maxErrorLength) := by
  have config := ((startAll_evolves transport round).trans
    (replay_evolves transport _ (round.steps transport timeout))).config
  rw [execute_eq_replay, late, ← config]
  rfl

/-! ### The end of the time -/

/-- A pair that a round leaves alone: it stays as it is at each moment, no turn or step that names
it touches the network or a pair, and nothing of it is sent. -/
structure Rested (transport : Transport Net Sock) (round : Round Net Sock) (timeout : Duration)
    (ordinal : Nat)
    (pair : Pair Sock) : Prop where
  stages : ∀ count, (round.stage transport timeout count).pairs[ordinal]? = some pair
  ended : (round.execute transport timeout).2.pairs[ordinal]? = some pair
  first : round.atStart transport (ordinal + 1) = round.atStart transport ordinal
  steps : ∀ before ready,
    ∀ step ∈ [Step.deliver (ordinal, ready), .sweep ordinal ready, .finish ordinal],
      let now := (round.startAll transport).replay transport before
      (now.apply transport step).network = now.network ∧
        (now.apply transport step).pairs = now.pairs
  sent : round.sent transport timeout ordinal = .empty

structure Unwatched (round : Round Net Sock) (ordinal : Nat) (pair : Pair Sock) : Prop where
  present : round.pairs[ordinal]? = some pair
  unknown : round.interests.isRegistered ordinal = false

namespace Unwatched

theorem of_place {other : Round Net Sock} (unwatched : round.Unwatched ordinal pair)
    (same : other.place ordinal = round.place ordinal) : other.Unwatched ordinal pair := by
  obtain ⟨pairs, slots⟩ := Prod.mk.inj same
  refine ⟨pairs.trans unwatched.present, ?_⟩
  have unknown := unwatched.unknown
  unfold Interests.isRegistered at unknown ⊢
  rwa [slots]

theorem dropHit (unwatched : round.Unwatched ordinal pair) (event : Nat × Readiness) :
    (round.dropHit event).Unwatched ordinal pair :=
  ⟨unwatched.present,
    (Interests.isRegistered_consume _ event.1 event.2 ordinal).trans unwatched.unknown⟩

theorem turnIfPending (unwatched : round.Unwatched ordinal pair)
    (idle : pair.batch.hasPending = false) {act : Turn Net Sock → Turn Net Sock}
    (framed : Framed act) (other : Nat) :
    (round.turnIfPending other act).Unwatched ordinal pair := by
  by_cases own : other = ordinal
  · subst own
    rwa [turnIfPending_of_answered ((isPending_eq unwatched.present).trans idle)]
  · exact unwatched.of_place (turnIfPending_place framed (Ne.symm own))

theorem leave (transport : Transport Net Sock) (unwatched : round.Unwatched ordinal pair)
    (other : Nat) : (round.turn other (Turn.leave transport)).Unwatched ordinal pair := by
  by_cases own : other = ordinal
  · subst own
    refine ⟨?_, ?_⟩
    · rw [leave_pairs]
      exact unwatched.present
    · rw [turn_interests unwatched.present]
      unfold Turn.leave Turn.finish
      cases (round.seat other pair).connection.link.socket? with
      | none => exact unwatched.unknown
      | some socket => exact Interests.isRegistered_forget _ _
  · exact unwatched.of_place (leave_place round other ordinal (Ne.symm own))

/-- The poller knows nobody when a round begins. -/
theorem enlisted (engine : Engine) (network : Net) (pairs : List (Pair Sock))
    (present : (enlist engine network pairs).pairs[ordinal]? = some pair) :
    (enlist engine network pairs).Unwatched ordinal pair := by
  refine ⟨present, ?_⟩
  unfold Interests.isRegistered
  cases there : (enlist engine network pairs).interests.slots[ordinal]? with
  | none => rfl
  | some slot =>
      rw [enlist_slots engine network pairs slot (List.mem_of_getElem? there)]
      rfl

end Unwatched

/-- Nothing is asked of the poller for a pair without pending commands. -/
theorem steady_unwatched (transport : Transport Net Sock) (idle : pair.batch.hasPending = false) :
    Steady transport fun round => round.Unwatched ordinal pair := by
  refine ⟨fun unwatched => unwatched.turnIfPending idle framed_start, ?_⟩
  intro round unwatched step
  cases step with
  | wait network => exact ⟨unwatched.present, unwatched.unknown⟩
  | deliver event =>
      have dropped := unwatched.dropHit event
      change (round.deliver transport event).Unwatched ordinal pair
      rw [deliver_eq]
      split
      · exact dropped
      · exact dropped.turnIfPending idle (framed_handle _) event.1
  | sweep swept event =>
      exact (unwatched.dropHit (swept, .io)).turnIfPending idle (framed_handle event) swept
  | finish finished => exact unwatched.leave transport finished

theorem leave_network (unwatched : round.Unwatched ordinal pair) :
    (round.turn ordinal (Turn.leave transport)).network = round.network := by
  have unknown := unwatched.unknown
  unfold turn Turn.leave Turn.released
  rw [unwatched.present]
  dsimp only
  cases pair.connection.link.socket? with
  | none => rfl
  | some socket =>
      dsimp only
      rw [unknown]
      rfl

theorem apply_rested (unwatched : round.Unwatched ordinal pair)
    (idle : pair.batch.hasPending = false) (ready : Readiness) {step : Step Net}
    (named : step ∈ [Step.deliver (ordinal, ready), .sweep ordinal ready, .finish ordinal]) :
    (round.apply transport step).network = round.network ∧
      (round.apply transport step).pairs = round.pairs := by
  have answered : ∀ act interests,
      { round with interests := interests }.turnIfPending ordinal act =
        { round with interests := interests } :=
    fun act interests => @turnIfPending_of_answered _ _ { round with interests := interests } _
      ((isPending_eq unwatched.present).trans idle) act
  simp only [List.mem_cons, List.not_mem_nil, or_false] at named
  rcases named with rfl | rfl | rfl
  · change (round.deliver transport (ordinal, ready)).network = _ ∧
      (round.deliver transport (ordinal, ready)).pairs = _
    rw [deliver_eq]
    split
    · exact ⟨rfl, rfl⟩
    · unfold Round.dropHit
      rw [answered]
      exact ⟨rfl, rfl⟩
  · change ((round.dropWanted ordinal).turnIfPending ordinal _).network = _ ∧
      ((round.dropWanted ordinal).turnIfPending ordinal _).pairs = _
    unfold dropWanted
    rw [answered]
    exact ⟨rfl, rfl⟩
  · exact ⟨leave_network unwatched, leave_pairs transport round ordinal⟩

/-- Who has nothing pending when a round begins takes no part in it. -/
theorem rested_of_idle (transport : Transport Net Sock) (timeout : Duration)
    (unwatched : round.Unwatched ordinal pair) (idle : pair.batch.hasPending = false) :
    round.Rested transport timeout ordinal pair := by
  have present := unwatched.present
  constructor
  · exact stage_idle transport timeout present idle
  · exact execute_idle transport timeout present idle
  · have here := (@atStart_own _ _ transport round ordinal).trans present
    rw [atStart_succ, turnIfPending_of_answered ((isPending_eq here).trans idle)]
  · intro before ready step named
    have steady := @steady_unwatched _ _ ordinal _ transport idle
    have started := steady.atStart unwatched round.pairs.length
    exact apply_rested (steady.replay started before) idle ready named
  · exact sentIn_idle present idle _

theorem Wakeful.going (wakeful : round.Wakeful) (missing : round.anyPending = true) :
    round.isOver = false := by
  have waited := wakeful.outstanding missing
  unfold isOver
  rw [missing, Bool.not_true, Bool.or_false]
  exact decide_eq_false (Nat.ne_of_gt waited)

theorem Watches.late {pair last : Pair Sock} {wanted : Readiness} (watches : Watches pair wanted)
    (late : pair.Late pair.lateness.detail last) :
    (∃ socket, pair.connection.link = .connecting socket ∧ pair.Late "connect timeout" last) ∨
      ∃ socket, pair.connection.link = .connected socket ∧
        pair.Late "read/write timeout" last := by
  unfold Pair.lateness at late
  rcases watches with ⟨socket, link, _⟩ | ⟨socket, link, _⟩
  · rw [link] at late
    exact .inl ⟨socket, link, late⟩
  · rw [link] at late
    exact .inr ⟨socket, link, late⟩

/-- At the end of its time the round sweeps up what its last head left. -/
theorem Heads.swept {timeout : Duration}
    (reached : Heads transport (round.startAll transport) (round.allowed transport timeout) head 0)
    (going : head.isOver = false) :
    (round.execute transport timeout).1 = .timedOut ∧
      (round.execute transport timeout).2.pairs =
        (head.dispatchAll transport .timedOut).pairs := by
  rw [execute_of_loop (reached.expired going)]
  exact ⟨rfl, (pairs_record _ _).trans (finishAll_pairs transport _)⟩

/-- The deadline of a round in which no batch was aborted before. The round runs out of time just if
it comes by its head with no time left and commands pending. Then that is the latest error, each
pair that is answered stays as it is, and each other one is late with connecting or with moving its
bytes. If the round ends otherwise no pair is told that the time is up, and if it ends well the
latest error is the old one. A pair without pending commands takes no part in it. -/
theorem execute_deadline (transport : Transport Net Sock) (engine : Engine) (network : Net)
    (pairs : List (Pair Sock)) (timeout : Duration)
    (plain : ∀ pair ∈ (enlist engine network pairs).pairs, pair.batch.isAborted = false) :
    let round := enlist engine network pairs
    let ended := round.execute transport timeout
    let reached := Heads transport (round.startAll transport) (round.allowed transport timeout)
    (ended.1 = .timedOut ↔ ∃ head, reached head 0 ∧ head.anyPending = true) ∧
      (∀ head, reached head 0 → head.anyPending = true →
        ended.2.engine.lastError =
            some (Text.truncate "Execute timeout" round.engine.config.maxErrorLength) ∧
          ∀ (ordinal : Nat) (pair : Pair Sock), head.pairs[ordinal]? = some pair →
            ∃ last, ended.2.pairs[ordinal]? = some last ∧
              (pair.batch.hasPending = false → last = pair) ∧
              (pair.batch.hasPending = true →
                (∃ socket, pair.connection.link = .connecting socket ∧
                    pair.Late "connect timeout" last) ∨
                  ∃ socket, pair.connection.link = .connected socket ∧
                    pair.Late "read/write timeout" last)) ∧
      (ended.1 ≠ .timedOut →
        Spares transport (round.startAll transport) (round.steps transport timeout)) ∧
      (ended.1 = .completed → ended.2.engine.lastError = round.engine.lastError) ∧
      ∀ (ordinal : Nat) (pair : Pair Sock), round.pairs[ordinal]? = some pair →
        pair.batch.hasPending = false → round.Rested transport timeout ordinal pair := by
  intro round ended reached
  have inStep : round.InStep := enlist_inStep engine network pairs
  have wakeful : ∀ head left, reached head left → head.Wakeful := by
    intro head left comes
    apply (comes.sound (startAll_sound transport inStep.counted)).wakeful
    intro ordinal pair present missing
    obtain ⟨steps, rfl⟩ := comes.replayed
    exact replay_alive plain steps present missing
  refine ⟨⟨?_, ?_⟩, ?_, ?_, ?_, ?_⟩
  · intro late
    have looped := (execute_outcome transport round timeout).symm.trans late
    obtain ⟨head, comes, going⟩ := Heads.of_timedOut .first looped
    refine ⟨head, comes, ?_⟩
    unfold isOver at going
    simpa only [Bool.not_eq_false'] using (Bool.or_eq_false_iff.mp going).2
  · rintro ⟨head, comes, missing⟩
    exact (comes.swept ((wakeful head 0 comes).going missing)).1
  · intro head comes missing
    obtain ⟨late, swept⟩ := comes.swept ((wakeful head 0 comes).going missing)
    refine ⟨execute_timedOut transport round timeout late, ?_⟩
    intro ordinal pair present
    have inside := (List.getElem?_eq_some_iff.mp present).1
    have expires := @dispatchAll_expires _ _ head _ transport inside
    rw [← swept] at expires
    cases busy : pair.batch.hasPending with
    | false =>
        have same := expires.answered pair present busy
        exact ⟨pair, same, fun _ => rfl, nofun⟩
    | true =>
        obtain ⟨slot, _, watches⟩ := (wakeful head 0 comes).watches ordinal pair present busy
        obtain ⟨steps, rfl⟩ := comes.replayed
        obtain ⟨last, ends, last_late⟩ := expires.late pair present busy
          (replay_alive plain steps present busy) (replay_unaborted plain steps present busy)
        exact ⟨last, ends, nofun, fun _ => watches.late last_late⟩
  · exact execute_spares transport inStep timeout
  · exact execute_completed transport round timeout
  · intro ordinal pair present idle
    exact rested_of_idle transport timeout (.enlisted engine network pairs present) idle

theorem execute_deadline_dripping :
    (∀ pair ∈ drippingRound.pairs, pair.batch.isAborted = false) ∧
      (drippingRound.execute dripping 0).1 = .timedOut ∧
      (drippingRound.execute dripping 0).2.engine.lastError =
        some (Text.truncate "Execute timeout" drippingRound.engine.config.maxErrorLength) ∧
      (∃ pair last, (drippingRound.startAll dripping).pairs[0]? = some pair ∧
        (drippingRound.execute dripping 0).2.pairs[0]? = some last ∧
        pair.Late "connect timeout" last) := by
  have plain : ∀ pair ∈ drippingRound.pairs, pair.batch.isAborted = false := by decide
  rw [drippingRound] at plain ⊢
  obtain ⟨late, swept, _, _, _⟩ := execute_deadline dripping {} () _ 0 plain
  obtain ⟨error, pairs⟩ := swept _ .first rfl
  obtain ⟨last, ends, _, pending⟩ := pairs 0 _ rfl
  refine ⟨plain, late.mpr ⟨_, .first, rfl⟩, error, _, last, rfl, ends, ?_⟩
  rcases pending rfl with ⟨_, _, connecting⟩ | ⟨_, impossible, _⟩
  · exact connecting
  · cases impossible

end Round

end Fanout
