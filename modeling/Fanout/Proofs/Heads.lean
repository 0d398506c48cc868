import Fanout.Proofs.Sending

/-!
The head of the loop. Whenever a round comes by there, every pair with pending commands waits for
what it has to: a socket that is being connected must become writable, a connected one readable,
and writable too while there is something to send. So the loop cannot end as completed while a
command is pending.
-/

set_option autoImplicit false

namespace Fanout.Round

variable {Net Sock : Type} {transport : Transport Net Sock}

/-- What the loop tests at its head. -/
def isOver (round : Round Net Sock) : Bool :=
  round.interests.outstanding = 0 || !round.anyPending

/-- A loop that begins with `first` and `total` nanoseconds comes by its head with a round and the
nanoseconds that are left. -/
inductive Heads (transport : Transport Net Sock) (first : Round Net Sock) (total : Nat) :
    Round Net Sock → Nat → Prop where
  | first : Heads transport first total first total
  | interrupted {round : Round Net Sock} {remaining passed : Nat} {network : Net}
      (head : Heads transport first total round remaining) (going : round.isOver = false)
      (more : remaining ≠ 0)
      (polled : transport.poll round.network round.watched remaining =
        (.interrupted, passed, network)) :
      Heads transport first total { round with network := network } (remaining - (passed + 1))
  | ready {round : Round Net Sock} {remaining passed : Nat} {network : Net}
      {events : List (Nat × Readiness)}
      (head : Heads transport first total round remaining) (going : round.isOver = false)
      (more : remaining ≠ 0)
      (polled : transport.poll round.network round.watched remaining =
        (.ready events, passed, network)) :
      Heads transport first total ({ round with network := network }.deliverAll transport events)
        (remaining - (passed + 1))

variable {first round : Round Net Sock} {total remaining : Nat}

/-- From each of its heads the loop goes on to the same end. -/
theorem Heads.loop_eq (head : Heads transport first total round remaining) :
    first.loop transport total = round.loop transport remaining := by
  induction head with
  | first => rfl
  | @interrupted round remaining passed network head going more polled ih =>
      unfold isOver at going
      rw [ih, loop, going, if_neg Bool.false_ne_true, dif_neg more, polled]
  | @ready round remaining passed network events head going more polled ih =>
      unfold isOver at going
      rw [ih, loop, going, if_neg Bool.false_ne_true, dif_neg more, polled]

/-- A loop that ends as completed does so at a head. -/
theorem Heads.of_completed (head : Heads transport first total round remaining)
    (completed : (round.loop transport remaining).1 = .completed) :
    ∃ left, Heads transport first total (round.loop transport remaining).2 left ∧
      (round.loop transport remaining).2.isOver = true := by
  fun_induction loop transport round remaining with
  | case1 round remaining settled => exact ⟨remaining, head, settled⟩
  | case2 round going => cases completed
  | case3 round remaining going more error passed network polled failed => cases completed
  | case4 round remaining going more passed network polled ih =>
      exact ih (.interrupted head (Bool.eq_false_iff.mpr going) more polled) completed
  | case5 round remaining going more events passed network polled ih =>
      exact ih (.ready head (Bool.eq_false_iff.mpr going) more polled) completed

/-- A loop that runs out of time does so at a head that is not over. -/
theorem Heads.of_timedOut (head : Heads transport first total round remaining)
    (ended : (round.loop transport remaining).1 = .timedOut) :
    ∃ last, Heads transport first total last 0 ∧ last.isOver = false := by
  fun_induction loop transport round remaining with
  | case1 round remaining settled => cases ended
  | case2 round going => exact ⟨round, head, Bool.eq_false_iff.mpr going⟩
  | case3 round remaining going more error passed network polled failed => cases ended
  | case4 round remaining going more passed network polled ih =>
      exact ih (.interrupted head (Bool.eq_false_iff.mpr going) more polled) ended
  | case5 round remaining going more events passed network polled ih =>
      exact ih (.ready head (Bool.eq_false_iff.mpr going) more polled) ended

/-- At a head without time left the loop ends, and what is pending is swept up. -/
theorem Heads.expired (head : Heads transport first total round 0) (going : round.isOver = false) :
    first.loop transport total = (.timedOut, round.dispatchAll transport .timedOut) := by
  unfold isOver at going
  rw [head.loop_eq, loop, going, if_neg Bool.false_ne_true, dif_pos rfl]

theorem Heads.sound (head : Heads transport first total round remaining) (sound : first.Sound) :
    round.Sound := by
  induction head with
  | first => exact sound
  | interrupted head going more polled ih =>
      exact ⟨⟨ih.counted.slots, ih.counted.balanced⟩, ih.waits⟩
  | @ready round remaining passed network events head going more polled ih =>
      refine deliverAll_sound ?_ events
      exact ⟨⟨ih.counted.slots, ih.counted.balanced⟩, ih.waits⟩

theorem Heads.replayed (head : Heads transport first total round remaining) :
    ∃ steps, round = first.replay transport steps := by
  induction head with
  | first => exact ⟨[], rfl⟩
  | @interrupted round remaining passed network head going more polled ih =>
      obtain ⟨steps, rfl⟩ := ih
      refine ⟨steps ++ [.wait network], ?_⟩
      rw [replay_append]
      rfl
  | @ready round remaining passed network events head going more polled ih =>
      obtain ⟨steps, rfl⟩ := ih
      refine ⟨steps ++ .wait network :: events.map .deliver, ?_⟩
      rw [replay_append, replay_cons, replay_deliver]
      rfl

/-- A pair that has pending commands, after any steps, stands against the batch that it entered the
round with. -/
theorem replay_accounts {entry : Round Net Sock} {ordinal : Nat} {after : Pair Sock}
    (steps : List (Step Net))
    (present : ((entry.startAll transport).replay transport steps).pairs[ordinal]? = some after)
    (missing : after.batch.hasPending = true) :
    ∃ pair ∈ entry.pairs, Accounts pair.batch after := by
  have inside := (List.getElem?_eq_some_iff.mp present).1
  rw [length_replay, length_startAll] at inside
  have there : entry.pairs[ordinal]? = some entry.pairs[ordinal] := List.getElem?_eq_getElem inside
  refine ⟨_, List.mem_of_getElem? there, ?_⟩
  generalize entry.pairs[ordinal] = pair at there
  cases busy : pair.batch.hasPending with
  | false =>
      have started := @startAll_idle _ _ transport _ _ _ there busy
      rw [replay_idle steps started busy] at present
      cases present
      rw [busy] at missing
      cases missing
  | true =>
      obtain ⟨begun, started, served⟩ := @startAll_begins _ _ transport _ _ inside pair there busy
      obtain ⟨last, ends, served⟩ := replay_served steps started served
      cases present.symm.trans ends
      exact Accounts.served served

/-- A pair whose batch was not aborted before the round gives up only when it answers what is
pending. -/
theorem replay_alive {entry : Round Net Sock} {ordinal : Nat} {after : Pair Sock}
    (plain : ∀ pair ∈ entry.pairs, pair.batch.isAborted = false) (steps : List (Step Net))
    (present : ((entry.startAll transport).replay transport steps).pairs[ordinal]? = some after)
    (missing : after.batch.hasPending = true) : after.connection.link.isAborted = false := by
  obtain ⟨pair, member, accounts⟩ := replay_accounts steps present missing
  obtain ⟨_, answered⟩ := accounts.plain (plain pair member)
  apply Bool.eq_false_iff.mpr
  intro gone
  exact Nat.ne_of_gt (of_decide_eq_true missing) (answered gone)

/-- Until then its batch is not aborted either. -/
theorem replay_unaborted {entry : Round Net Sock} {ordinal : Nat} {after : Pair Sock}
    (plain : ∀ pair ∈ entry.pairs, pair.batch.isAborted = false) (steps : List (Step Net))
    (present : ((entry.startAll transport).replay transport steps).pairs[ordinal]? = some after)
    (missing : after.batch.hasPending = true) : after.batch.isAborted = false := by
  obtain ⟨pair, member, accounts⟩ := replay_accounts steps present missing
  exact (accounts.plain (plain pair member)).1.trans (replay_alive plain steps present missing)

/-- What a pair waits for: its socket to become writable while it is being connected, and then to
become readable, and writable as long as there is something to send. -/
def Watches (pair : Pair Sock) (wanted : Readiness) : Prop :=
  (∃ socket, pair.connection.link = .connecting socket ∧ wanted.write = true) ∨
    ∃ socket, pair.connection.link = .connected socket ∧ wanted.read = true ∧
      (0 < pair.batch.writeBuffer.remaining → wanted.write = true)

theorem watches_of_armed {pair : Pair Sock} {wanted : Readiness}
    (alive : pair.connection.link.isAborted = false)
    (armed : pair.connection.link.Armed True pair.batch.writeBuffer.remaining wanted) :
    Watches pair wanted := by
  unfold Watches
  cases link : pair.connection.link with
  | closed =>
      rw [link] at armed
      exact armed.elim
  | connecting socket =>
      rw [link] at armed
      exact .inl ⟨socket, rfl, armed⟩
  | connected socket =>
      rw [link] at armed
      exact .inr ⟨socket, rfl, armed.1 trivial, armed.2⟩
  | aborted =>
      rw [link] at alive
      cases alive

theorem Watches.count_pos {pair : Pair Sock} {wanted : Readiness} (watches : Watches pair wanted) :
    0 < wanted.count := by
  obtain ⟨read, write, timeout, error⟩ := wanted
  rcases watches with ⟨_, _, writes⟩ | ⟨_, _, reads, _⟩
  · cases writes
    simp only [Readiness.count, Bool.toNat_true]
    omega
  · cases reads
    simp only [Readiness.count, Bool.toNat_true]
    omega

structure Wakeful (round : Round Net Sock) : Prop where
  watches : ∀ (ordinal : Nat) (pair : Pair Sock), round.pairs[ordinal]? = some pair →
    pair.batch.hasPending = true →
    ∃ slot, round.interests.slots[ordinal]? = some slot ∧ Watches pair slot.wanted
  outstanding : round.anyPending = true → 0 < round.interests.outstanding

theorem Sound.wakeful (sound : round.Sound)
    (alive : ∀ (ordinal : Nat) (pair : Pair Sock), round.pairs[ordinal]? = some pair →
      pair.batch.hasPending = true → pair.connection.link.isAborted = false) :
    round.Wakeful := by
  have watches : ∀ (ordinal : Nat) (pair : Pair Sock), round.pairs[ordinal]? = some pair →
      pair.batch.hasPending = true →
      ∃ slot, round.interests.slots[ordinal]? = some slot ∧ Watches pair slot.wanted := by
    intro ordinal pair present missing
    obtain ⟨slot, there⟩ := sound.counted.slot present
    have armed := sound.waits ordinal pair slot (Prod.ext present there) missing
    exact ⟨slot, there, watches_of_armed (alive ordinal pair present missing) armed⟩
  refine ⟨watches, ?_⟩
  intro any
  obtain ⟨pair, member, missing⟩ := List.any_eq_true.mp any
  obtain ⟨ordinal, present⟩ := List.mem_iff_getElem?.mp member
  obtain ⟨slot, there, waits⟩ := watches ordinal pair present missing
  have most := Interests.count_le_outstanding sound.counted.balanced there
  exact Nat.lt_of_lt_of_le waits.count_pos most

theorem Wakeful.answered (wakeful : round.Wakeful) (settled : round.isOver = true) :
    ∀ pair ∈ round.pairs, pair.batch.pending = 0 := by
  intro pair member
  apply Nat.eq_zero_of_not_pos
  intro missing
  have any : round.anyPending = true :=
    List.any_eq_true.mpr ⟨pair, member, decide_eq_true missing⟩
  have outstanding := wakeful.outstanding any
  unfold isOver at settled
  rw [any, Bool.not_true, Bool.or_false] at settled
  exact Nat.ne_of_gt outstanding (of_decide_eq_true settled)

/-- If no batch is aborted when a round begins, then at every head of its loop each pair with
pending commands waits for what it has to, and the round is completed only with nothing pending. -/
theorem execute_wakeful (transport : Transport Net Sock) (engine : Engine) (network : Net)
    (pairs : List (Pair Sock)) (timeout : Duration)
    (plain : ∀ pair ∈ (enlist engine network pairs).pairs, pair.batch.isAborted = false) :
    (∀ head left, Heads transport ((enlist engine network pairs).startAll transport)
        ((enlist engine network pairs).allowed transport timeout) head left → head.Wakeful) ∧
      (((enlist engine network pairs).execute transport timeout).1 = .completed →
        ∀ pair ∈ ((enlist engine network pairs).execute transport timeout).2.pairs,
          pair.batch.pending = 0) := by
  have sound := startAll_sound transport (enlist_counted engine network pairs)
  generalize enlist engine network pairs = round at plain sound ⊢
  have heads : ∀ head left, Heads transport (round.startAll transport)
      (round.allowed transport timeout) head left → head.Wakeful := by
    intro head left reached
    refine (reached.sound sound).wakeful ?_
    intro ordinal pair present missing
    obtain ⟨steps, rfl⟩ := reached.replayed
    exact replay_alive plain steps present missing
  have ends : ((round.startAll transport).loop transport (round.allowed transport timeout)).1 =
      .completed → ∀ pair ∈ ((round.startAll transport).loop transport
        (round.allowed transport timeout)).2.pairs, pair.batch.pending = 0 := by
    intro completed
    obtain ⟨left, reached, settled⟩ := Heads.of_completed .first completed
    exact (heads _ _ reached).answered settled
  refine ⟨heads, ?_⟩
  unfold execute
  generalize (round.startAll transport).loop transport (round.allowed transport timeout) = ended
    at ends ⊢
  obtain ⟨outcome, last⟩ := ended
  dsimp only
  rw [pairs_record, finishAll_pairs]
  exact ends

theorem execute_wakeful_dripping :
    (∀ pair ∈ drippingRound.pairs, pair.batch.isAborted = false) ∧
      (∀ head left, Heads dripping (drippingRound.startAll dripping)
        (drippingRound.allowed dripping 1000) head left → head.Wakeful) ∧
      ((drippingRound.execute dripping 1000).1 = .completed →
        ∀ pair ∈ (drippingRound.execute dripping 1000).2.pairs, pair.batch.pending = 0) := by
  have plain : ∀ pair ∈ drippingRound.pairs, pair.batch.isAborted = false := by decide
  rw [drippingRound] at plain ⊢
  exact ⟨plain, execute_wakeful dripping {} () _ 1000 plain⟩

end Fanout.Round
