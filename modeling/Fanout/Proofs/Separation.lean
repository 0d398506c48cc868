import Fanout.Proofs.Blindness
import Fanout.Proofs.Lifecycle

/-!
Pairs do not interfere. What events make of a pair depends on the pair, its slot and its own events
only, and the count of outstanding events on the slots; so it does not matter in which order the
poller lists the events of different pairs.
-/

set_option autoImplicit false

namespace Fanout

variable {Net Sock : Type} {transport : Transport Net Sock}

/-! ### Turns -/

namespace Turn

variable {turn other : Turn Net Sock}

/-- The same turn of the same pair. The network, the counters, the slots of the others and what
they broke may be different. -/
inductive Alike (turn : Turn Net Sock) : Turn Net Sock → Prop where
  | beside (network : Net) (memory : MemoryStats) (breach : Option Misuse) {interests : Interests}
      (slot : interests.slots[turn.ordinal]? = turn.interests.slots[turn.ordinal]?) :
      Alike turn { turn with
        network := network
        memory := memory
        interests := interests
        breach := breach }

theorem Alike.withLink (alike : turn.Alike other) (link : Link Sock) :
    (turn.withLink link).Alike (other.withLink link) := by
  cases alike with
  | beside network memory breach slot => exact .beside network memory breach slot

theorem Alike.withSocket (alike : turn.Alike other) (socket : Sock) :
    (turn.withSocket socket).Alike (other.withSocket socket) := by
  cases alike with
  | beside network memory breach slot => exact .beside network memory breach slot

theorem Alike.withBatch (alike : turn.Alike other) (batch : Batch) :
    Alike { turn with batch := batch } { other with batch := batch } := by
  cases alike with
  | beside network memory breach slot => exact .beside network memory breach slot

theorem Alike.dropSocket (transport : Transport Net Sock) (alike : turn.Alike other) :
    (turn.dropSocket transport).Alike (other.dropSocket transport) := by
  cases alike with
  | @beside network memory breach interests slot =>
      unfold Turn.dropSocket
      dsimp only
      cases turn.connection.link.socket? with
      | none => exact .beside network memory breach slot
      | some socket =>
          have forgotten := (Interests.forget_own interests turn.ordinal).trans
            ((congrArg (Option.map Interests.forgotten) slot).trans
              (Interests.forget_own turn.interests turn.ordinal).symm)
          exact @Alike.beside _ _ { turn.forget with
            network := transport.hangUp (turn.released transport socket) socket }
            _ memory _ _ forgotten

theorem Alike.abort (transport : Transport Net Sock) (alike : turn.Alike other)
    (cause : AbortCause) :
    (turn.abort transport cause).Alike (other.abort transport cause) := by
  have dropped := fun batch => (alike.withBatch batch).dropSocket transport
  cases alike with
  | beside network memory breach slot =>
      unfold Turn.abort
      dsimp only
      split
      · exact .beside network memory breach slot
      · exact (dropped _).withLink .aborted

/-- The poller is asked the same and answers the same. -/
theorem Alike.notify (transport : Transport Net Sock) (alike : turn.Alike other)
    (event : Readiness) :
    (turn.notify transport event).Alike (other.notify transport event) := by
  cases alike with
  | @beside network memory breach interests slot =>
      unfold Turn.notify
      dsimp only
      cases turn.connection.link.socket? with
      | none => exact .beside network memory breach slot
      | some socket =>
          dsimp only
          cases there : turn.interests.slots[turn.ordinal]? with
          | none =>
              have there' := slot.trans there
              unfold Interests.notify Interests.want
              rw [there, there']
              exact .beside network memory _ slot
          | some held =>
              have there' := slot.trans there
              obtain ⟨after, asked, revised⟩ :=
                Interests.notify_eq there event transport.watch socket
              obtain ⟨after', asked', revised'⟩ :=
                Interests.notify_eq there' event transport.watch socket
              rw [asked, asked']
              have both :=
                @Alike.beside _ _ { turn with interests := after } network memory breach after'
                ((revised'.own there').trans (revised.own there).symm)
              dsimp only
              cases (Interests.askSlot held event transport.watch socket).1 with
              | none => exact both.withSocket _
              | some error => exact (both.withSocket _).abort transport _

theorem Alike.sendData (transport : Transport Net Sock) (alike : turn.Alike other) :
    (turn.sendData transport).Alike (other.sendData transport) := by
  have stored := fun batch => alike.withBatch batch
  cases alike with
  | beside network memory breach slot =>
      unfold Turn.sendData
      dsimp only
      cases turn.connection.link with
      | connected socket =>
          dsimp only
          generalize sendPending transport turn.batch.writeBuffer socket = sent
          obtain ⟨ended, buffer, later⟩ := sent
          have both := (stored { turn.batch with writeBuffer := buffer }).withSocket later
          cases ended with
          | drained => exact both
          | blocked => exact both.notify transport .writing
          | failed error => exact both.abort transport (.writeFailed error)
      | _ => exact .beside network memory breach slot

theorem Alike.finishConnect (transport : Transport Net Sock) (alike : turn.Alike other) :
    (turn.finishConnect transport).Alike (other.finishConnect transport) := by
  have moved := fun socket => alike.withSocket socket
  have set := fun link => alike.withLink link
  cases alike with
  | beside network memory breach slot =>
      unfold Turn.finishConnect
      dsimp only
      cases turn.connection.link with
      | connecting socket =>
          dsimp only
          cases transport.shake socket with
          | mk handshake later =>
              cases handshake with
              | inProgress => exact (moved later).notify transport .writing
              | failed error => exact (moved later).abort transport (.connectFailed error)
              | established => exact (set (.connected later)).notify transport .reading
      | _ => exact .beside network memory breach slot

/-- Only a closed connection looks at the network, to dial. -/
theorem Alike.writeData (transport : Transport Net Sock) (alike : turn.Alike other)
    (open' : turn.connection.link ≠ .closed) :
    (turn.writeData transport).Alike (other.writeData transport) := by
  have same : other.connection.link = turn.connection.link := by
    cases alike
    rfl
  unfold Turn.writeData
  rw [same]
  cases link : turn.connection.link with
  | closed => exact (open' link).elim
  | connecting socket => exact (alike.finishConnect transport).sendData transport
  | connected socket => exact alike.sendData transport
  | aborted => exact alike

theorem Alike.readData (transport : Transport Net Sock) (alike : turn.Alike other) :
    (turn.readData transport).Alike (other.readData transport) := by
  cases alike with
  | @beside network memory breach interests slot =>
      unfold Turn.readData
      dsimp only
      cases turn.connection.link with
      | connected socket =>
          obtain ⟨after, same⟩ := Intake.blind_run transport (turn.intake socket) memory
          dsimp only
          change Intake.run transport (Turn.intake { turn with
            network := network
            memory := memory
            interests := interests
            breach := breach } socket) = _ at same
          rw [same]
          generalize (turn.intake socket).run transport = received
          obtain ⟨ended, intake⟩ := received
          have both := @Alike.beside _ _ (turn.withIntake intake) network after
            (breach.or intake.breach) interests slot
          cases ended with
          | answered => exact both
          | blocked => exact both.notify transport .reading
          | failed cause => exact both.abort transport cause
      | _ => exact .beside network memory breach slot

theorem Alike.handle (transport : Transport Net Sock) (alike : turn.Alike other)
    (open' : turn.connection.link ≠ .closed) (event : Readiness) :
    (turn.handle transport event).Alike (other.handle transport event) := by
  have same : other.connection.link = turn.connection.link := by
    cases alike
    rfl
  have written : Alike
      (if event.contains .writing then turn.writeData transport else turn)
      (if event.contains .writing then other.writeData transport else other) := by
    split
    · exact alike.writeData transport open'
    · exact alike
  unfold Turn.handle
  rw [same]
  split
  · exact alike
  · split
    · exact alike.abort transport _
    · split
      · exact alike.abort transport _
      · dsimp only
        split
        · exact written.readData transport
        · exact written

end Turn

/-! ### Rounds -/

namespace Round

variable {round one other : Round Net Sock} {ordinal : Nat} {event : Nat × Readiness}

/-- Whoever has pending commands has had a first turn and left the beginning behind. -/
def Underway (round : Round Net Sock) : Prop :=
  ∀ (ordinal : Nat) (pair : Pair Sock), round.pairs[ordinal]? = some pair →
    pair.batch.hasPending = true → pair.connection.link ≠ .closed

theorem startAll_underway (transport : Transport Net Sock) (inStep : round.InStep) :
    (round.startAll transport).Underway := by
  intro ordinal after present missing
  have inside := (List.getElem?_eq_some_iff.mp present).1
  rw [length_startAll] at inside
  have entered := List.getElem?_eq_getElem inside
  cases busy : round.pairs[ordinal].batch.hasPending with
  | false =>
      cases (startAll_idle entered busy).symm.trans present
      rw [busy] at missing
      cases missing
  | true =>
      obtain ⟨begun, there, open'⟩ := startAll_open transport inStep entered busy
      cases there.symm.trans present
      exact open'

theorem apply_underway (underway : round.Underway) (step : Step Net) :
    (round.apply transport step).Underway := by
  have kept : Kept transport (Turn.heard transport) fun _ pair =>
      pair.batch.hasPending = true → pair.connection.link ≠ .closed := by
    intro turn event _ busy open' _
    have onward := Link.Onward.refl (open' (decide_eq_true busy))
    exact ((Turn.handle_moves busy event).onward onward).ne_closed
  intro ordinal after present missing
  have inside := (List.getElem?_eq_some_iff.mp present).1
  rw [length_apply] at inside
  have here := List.getElem?_eq_getElem inside
  obtain ⟨_, there, open'⟩ := @apply_kept _ _ transport _ .empty _ _ _ _ kept here
    (underway ordinal _ here) step
  cases there.symm.trans present
  exact open' missing

theorem replay_underway (underway : round.Underway) (steps : List (Step Net)) :
    (round.replay transport steps).Underway := by
  induction steps generalizing round with
  | nil => exact underway
  | cons step steps ih => exact ih (apply_underway underway step)

/-! ### One pair -/

theorem deliver_others (round : Round Net Sock) (apart : ordinal ≠ event.1) :
    (round.deliver transport event).place ordinal = round.place ordinal := by
  rw [deliver_eq]
  split
  · exact dropHit_place event apart
  · exact (turnIfPending_place (framed_handle _) apart).trans (dropHit_place event apart)

/-- What is taken from a slot depends on that slot only. -/
theorem dropHit_alike (same : other.place event.1 = one.place event.1) :
    other.hit event = one.hit event ∧
      (other.dropHit event).place event.1 = (one.dropHit event).place event.1 := by
  obtain ⟨pairs, slots⟩ := Prod.mk.inj same
  unfold hit dropHit place
  cases there : one.interests.slots[event.1]? with
  | none =>
      rw [Interests.consume_of_none there, Interests.consume_of_none (slots.trans there)]
      exact ⟨rfl, Prod.ext pairs slots⟩
  | some slot =>
      have there' := slots.trans there
      rw [Interests.consume_hit there, Interests.consume_hit there']
      refine ⟨rfl, Prod.ext pairs ?_⟩
      exact ((Interests.consume_revises there' event.2).own there').trans
        ((Interests.consume_revises there event.2).own there).symm

theorem handle_alike (same : other.place ordinal = one.place ordinal)
    (open' : ∀ pair, one.pairs[ordinal]? = some pair → pair.batch.hasPending = true →
      pair.connection.link ≠ .closed) (hit : Readiness) :
    (other.turnIfPending ordinal fun turn => turn.handle transport hit).place ordinal =
      (one.turnIfPending ordinal fun turn => turn.handle transport hit).place ordinal := by
  obtain ⟨pairs, slots⟩ := Prod.mk.inj same
  have pending : other.isPending ordinal = one.isPending ordinal := by
    unfold isPending
    rw [pairs]
  rcases turnIfPending_cases one ordinal fun turn => turn.handle transport hit with
    ⟨idle, unchanged⟩ | ⟨pair, present, busy, turned⟩
  · rw [unchanged, turnIfPending_of_answered (pending.trans idle)]
    exact same
  · have missing : pair.batch.hasPending = true := decide_eq_true busy
    have present' := pairs.trans present
    have alike : (one.seat ordinal pair).Alike (other.seat ordinal pair) :=
      @Turn.Alike.beside _ _ (one.seat ordinal pair) other.network other.engine.memory
        other.breach _ slots
    have acted := alike.handle transport (open' pair present missing) hit
    have mine : ((one.seat ordinal pair).handle transport hit).ordinal = ordinal :=
      (Turn.frames_handle busy hit).ordinal
    rw [turned, turnIfPending_of_pending ((isPending_eq present').trans missing)]
    unfold place
    rw [turn_own present, turn_own present', turn_interests present, turn_interests present']
    generalize (one.seat ordinal pair).handle transport hit = after at acted mine ⊢
    generalize (other.seat ordinal pair).handle transport hit = after' at acted ⊢
    cases acted with
    | beside network memory breach slot =>
        rw [mine] at slot
        exact Prod.ext rfl slot

/-- An event does the same to its pair in any two rounds that agree on the pair and its slot. -/
theorem deliver_alike (same : other.place event.1 = one.place event.1) (underway : one.Underway) :
    (other.deliver transport event).place event.1 =
      (one.deliver transport event).place event.1 := by
  obtain ⟨hits, dropped⟩ := dropHit_alike same
  rw [deliver_eq, deliver_eq, hits]
  split
  · exact dropped
  · exact handle_alike dropped (underway event.1) _

/-- What a batch of events makes of a pair is what its own events make of it. -/
theorem deliverAll_own (events : List (Nat × Readiness))
    (same : other.place ordinal = one.place ordinal) (underway : one.Underway) :
    (other.deliverAll transport (events.filter (·.1 = ordinal))).place ordinal =
      (one.deliverAll transport events).place ordinal := by
  induction events generalizing one other with
  | nil => exact same
  | cons event events ih =>
      have next : (one.deliver transport event).Underway :=
        apply_underway underway (.deliver event)
      by_cases own : event.1 = ordinal
      · have taken : List.filter (·.1 = ordinal) (event :: events) =
            event :: events.filter (·.1 = ordinal) :=
          List.filter_cons_of_pos (decide_eq_true own)
        subst own
        rw [taken]
        exact ih (deliver_alike same underway) next
      · rw [List.filter_cons_of_neg (by simpa using own)]
        exact ih (same.trans (deliver_others one (Ne.symm own)).symm) next

theorem eq_of_places (places : ∀ ordinal, one.place ordinal = other.place ordinal)
    (counted : one.Counted) (counted' : other.Counted) :
    one.pairs = other.pairs ∧ one.interests = other.interests := by
  have slots : one.interests.slots = other.interests.slots :=
    List.ext_getElem? fun ordinal => congrArg Prod.snd (places ordinal)
  have outstanding : one.interests.outstanding = other.interests.outstanding := by
    have sum := counted.balanced
    unfold Interests.Balanced at sum
    rw [sum, slots]
    exact counted'.balanced.symm
  refine ⟨List.ext_getElem? fun ordinal => congrArg Prod.fst (places ordinal), ?_⟩
  calc one.interests
    _ = ⟨one.interests.slots, one.interests.outstanding⟩ := rfl
    _ = ⟨other.interests.slots, other.interests.outstanding⟩ := by rw [slots, outstanding]
    _ = other.interests := rfl

/-- In a round, after any steps, events of different pairs can be delivered in any order. Two events
leave the same connections, batches, slots and count of outstanding events either way around; a
batch of events makes of each pair what the pair's own events make of it, so batches that list the
events of each pair in the same order leave the same. -/
theorem deliver_commutes (transport : Transport Net Sock) (engine : Engine) (network : Net)
    (pairs : List (Pair Sock)) (steps : List (Step Net)) {first second : Nat}
    (apart : first ≠ second) (ready later : Readiness) :
    let round := ((enlist engine network pairs).startAll transport).replay transport steps
    let one := (round.deliver transport (first, ready)).deliver transport (second, later)
    let other := (round.deliver transport (second, later)).deliver transport (first, ready)
    (one.pairs = other.pairs ∧ one.interests = other.interests) ∧
      (∀ (events : List (Nat × Readiness)) (ordinal : Nat),
        (round.deliverAll transport events).place ordinal =
          (round.deliverAll transport (events.filter (·.1 = ordinal))).place ordinal) ∧
      ∀ events reordered : List (Nat × Readiness),
        (∀ ordinal, events.filter (·.1 = ordinal) = reordered.filter (·.1 = ordinal)) →
        (round.deliverAll transport events).pairs =
            (round.deliverAll transport reordered).pairs ∧
          (round.deliverAll transport events).interests =
            (round.deliverAll transport reordered).interests := by
  intro round one other
  have inStep := enlist_inStep engine network pairs
  have steady := steady_inStep transport
  have started := steady.atStart inStep (enlist engine network pairs).pairs.length
  have sound : round.InStep := steady.replay started steps
  have underway : round.Underway :=
    replay_underway (startAll_underway transport inStep) steps
  have counted : ∀ events, (round.deliverAll transport events).Counted := by
    intro events
    rw [← replay_deliver]
    exact (steady.replay sound _).counted
  have own : ∀ (events : List (Nat × Readiness)) (ordinal : Nat),
      (round.deliverAll transport events).place ordinal =
        (round.deliverAll transport (events.filter (·.1 = ordinal))).place ordinal :=
    fun events ordinal => (deliverAll_own events rfl underway).symm
  have orders : ∀ events reordered : List (Nat × Readiness),
      (∀ ordinal, events.filter (·.1 = ordinal) = reordered.filter (·.1 = ordinal)) →
      (round.deliverAll transport events).pairs =
          (round.deliverAll transport reordered).pairs ∧
        (round.deliverAll transport events).interests =
          (round.deliverAll transport reordered).interests := by
    intro events reordered same
    apply eq_of_places ?_ (counted events) (counted reordered)
    intro ordinal
    rw [own events, own reordered, same]
  refine ⟨?_, own, orders⟩
  apply orders [(first, ready), (second, later)] [(second, later), (first, ready)]
  intro ordinal
  by_cases mine : first = ordinal
  · subst mine
    simp [apart.symm]
  · simp [mine, List.filter_cons]

def drippingPairs : List (Pair Bool) :=
  [⟨Connection.new ⟨"nowhere", 6379⟩ 255, Batch.ping.item⟩,
    ⟨Connection.new ⟨"elsewhere", 6379⟩ 255, Batch.ping.item⟩]

theorem deliver_commutes_dripping :
    let round := ((enlist {} () drippingPairs).startAll dripping).replay dripping []
    let one := (round.deliver dripping (0, .writing)).deliver dripping (1, .io)
    let other := (round.deliver dripping (1, .io)).deliver dripping (0, .writing)
    round.interests.outstanding = 2 ∧
      one.pairs = other.pairs ∧ one.interests = other.interests := by
  have commutes := deliver_commutes dripping {} () drippingPairs [] Nat.zero_ne_one .writing .io
  exact ⟨by decide +kernel, commutes.1⟩

end Round

end Fanout
