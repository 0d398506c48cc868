import Fanout.Proofs.Script
import Fanout.Proofs.Waking

/-!
How a round ends. While it goes on every pair with pending commands waits for what it has to, so
the round cannot end early with one of them; the event that ends it late makes all of them give up.
-/

set_option autoImplicit false

namespace Fanout

theorem Readiness.without_empty (events : Readiness) : events.without .empty = events := by
  obtain ⟨read, write, timeout, error⟩ := events
  cases read <;> cases write <;> cases timeout <;> cases error <;> rfl

namespace Turn

variable {Net Sock : Type} {transport : Transport Net Sock} {turn : Turn Net Sock}

theorem frames_handle (busy : 0 < turn.batch.pending) (event : Readiness) :
    Frames turn (turn.handle transport event) :=
  (handle_moves busy event).frames

theorem frames_start (busy : 0 < turn.batch.pending) : Frames turn (turn.start transport) := by
  refine .trans ?_ (start_moves busy).frames
  exact .of_same rfl rfl

end Turn

namespace Round

variable {Net Sock : Type} {transport : Transport Net Sock} {round : Round Net Sock}
  {ordinal other : Nat} {act : Turn Net Sock → Turn Net Sock}

def place {Place : Type → Type} (round : Round Net Sock Place) (ordinal : Nat) :
    Option (Pair Sock Place) × Option Slot :=
  (round.pairs[ordinal]?, round.interests.slots[ordinal]?)

def Waits (place : Option (Pair Sock) × Option Slot) : Prop :=
  ∀ pair slot, place = (some pair, some slot) → pair.batch.hasPending = true →
    pair.connection.link.Armed True pair.batch.writeBuffer.remaining slot.wanted

structure Counted (round : Round Net Sock) : Prop where
  slots : round.interests.slots.length = round.pairs.length
  balanced : round.interests.Balanced

theorem Counted.slot {pair : Pair Sock} (counted : round.Counted)
    (present : round.pairs[ordinal]? = some pair) :
    ∃ slot, round.interests.slots[ordinal]? = some slot := by
  have inside := (List.getElem?_eq_some_iff.mp present).1
  rw [← counted.slots] at inside
  exact ⟨_, List.getElem?_eq_getElem inside⟩

structure Sound (round : Round Net Sock) : Prop where
  counted : round.Counted
  waits : ∀ ordinal, Waits (round.place ordinal)

/-- What an act may do when it is a pair's turn and the pair has pending commands. -/
def Framed (act : Turn Net Sock → Turn Net Sock) : Prop :=
  ∀ turn : Turn Net Sock, 0 < turn.batch.pending → Turn.Frames turn (act turn)

theorem framed_start : Framed (Turn.start transport) := fun _ busy => Turn.frames_start busy

theorem framed_handle (event : Readiness) :
    Framed fun turn : Turn Net Sock => turn.handle transport event :=
  fun _ busy => Turn.frames_handle busy event

theorem turnIfPending_cases (round : Round Net Sock) (ordinal : Nat)
    (act : Turn Net Sock → Turn Net Sock) :
    round.isPending ordinal = false ∧ round.turnIfPending ordinal act = round ∨
      ∃ pair, round.pairs[ordinal]? = some pair ∧ 0 < (round.seat ordinal pair).batch.pending ∧
        round.turnIfPending ordinal act = round.turn ordinal act := by
  cases busy : round.isPending ordinal with
  | false => exact .inl ⟨rfl, turnIfPending_of_answered busy act⟩
  | true =>
      cases present : round.pairs[ordinal]? with
      | none =>
          unfold isPending at busy
          rw [present] at busy
          cases busy
      | some pair =>
          have missing := (isPending_eq present).symm.trans busy
          exact .inr ⟨pair, rfl, of_decide_eq_true missing, turnIfPending_of_pending busy act⟩

theorem turn_place {pair : Pair Sock} (present : round.pairs[ordinal]? = some pair)
    (frames : Turn.Frames (round.seat ordinal pair) (act (round.seat ordinal pair)))
    (apart : other ≠ ordinal) : (round.turn ordinal act).place other = round.place other := by
  unfold place
  rw [turn_others apart, turn_interests present]
  exact congrArg _ (frames.others other apart)

theorem turn_counted {pair : Pair Sock} (present : round.pairs[ordinal]? = some pair)
    (frames : Turn.Frames (round.seat ordinal pair) (act (round.seat ordinal pair)))
    (counted : round.Counted) : (round.turn ordinal act).Counted := by
  constructor
  · rw [turn_interests present, length_turn, ← counted.slots]
    exact frames.length
  · rw [turn_interests present]
    exact frames.balanced counted.balanced

theorem turnIfPending_place (framed : Framed act) (apart : other ≠ ordinal) :
    (round.turnIfPending ordinal act).place other = round.place other := by
  rcases turnIfPending_cases round ordinal act with ⟨_, same⟩ | ⟨pair, present, busy, same⟩
  · rw [same]
  · rw [same]
    exact turn_place present (framed _ busy) apart

theorem turnIfPending_counted (framed : Framed act) (counted : round.Counted) (ordinal : Nat) :
    (round.turnIfPending ordinal act).Counted := by
  rcases turnIfPending_cases round ordinal act with ⟨_, same⟩ | ⟨pair, present, busy, same⟩
  · rwa [same]
  · rw [same]
    exact turn_counted present (framed _ busy) counted

theorem seat_seated {pair : Pair Sock} {slot : Slot}
    (there : round.interests.slots[ordinal]? = some slot) : (round.seat ordinal pair).Seated :=
  (List.getElem?_eq_some_iff.mp there).1

theorem seat_wanted {pair : Pair Sock} {slot : Slot}
    (there : round.interests.slots[ordinal]? = some slot) :
    (round.seat ordinal pair).wanted = slot.wanted := by
  unfold Turn.wanted seat
  dsimp only
  rw [there]
  rfl

theorem turnIfPending_waits (framed : Framed act)
    (arms : ∀ pair slot, round.place ordinal = (some pair, some slot) →
      0 < pair.batch.pending → 0 < (act (round.seat ordinal pair)).batch.pending →
      (act (round.seat ordinal pair)).Armed True) :
    Waits ((round.turnIfPending ordinal act).place ordinal) := by
  intro after slot found missing
  obtain ⟨present', there'⟩ := Prod.mk.inj found
  rcases turnIfPending_cases round ordinal act with ⟨idle, same⟩ | ⟨pair, present, busy, same⟩
  · rw [same] at present'
    rw [isPending_eq present', missing] at idle
    cases idle
  · have frames := framed _ busy
    rw [same, turn_own present] at present'
    rw [same, turn_interests present] at there'
    cases present'
    have inside := (List.getElem?_eq_some_iff.mp there').1
    rw [frames.length] at inside
    have there : round.interests.slots[ordinal]? = some round.interests.slots[ordinal] :=
      List.getElem?_eq_getElem inside
    have armed := arms pair _ (Prod.ext present there) busy (of_decide_eq_true missing)
    have wants : (act (round.seat ordinal pair)).wanted = slot.wanted := by
      unfold Turn.wanted
      rw [frames.ordinal]
      change ((act (round.seat ordinal pair)).interests.slots[ordinal]?.map Slot.wanted).getD
        .empty = slot.wanted
      rw [there']
      rfl
    unfold Turn.Armed at armed
    rwa [wants] at armed

theorem startAll_counted (transport : Transport Net Sock) (counted : round.Counted) :
    (round.startAll transport).Counted := by
  unfold startAll eachPair
  induction List.range round.pairs.length generalizing round with
  | nil => exact counted
  | cons ordinal ordinals ih =>
      rw [List.foldl_cons]
      exact ih (turnIfPending_counted framed_start counted ordinal)

theorem startAll_sound (transport : Transport Net Sock) (counted : round.Counted) :
    (round.startAll transport).Sound := by
  refine ⟨startAll_counted transport counted, ?_⟩
  intro ordinal
  by_cases inside : ordinal < round.pairs.length
  · refine @eachPair_own _ _ _ _ _ place _ (fun _ after => Waits after)
      (fun _ _ _ apart => turnIfPending_place framed_start apart) ?_ inside
    intro round ordinal
    apply turnIfPending_waits framed_start
    intro pair slot found busy _
    exact Turn.start_armed (seat_seated (Prod.mk.inj found).2) busy
  · intro pair slot found
    have outside : ¬ordinal < (round.startAll transport).pairs.length := by
      rw [length_startAll]
      exact inside
    exact absurd (List.getElem?_eq_some_iff.mp (Prod.mk.inj found).1).1 outside

/-! ### The loop -/

theorem dropHit_place (event : Nat × Readiness) (apart : other ≠ event.1) :
    (round.dropHit event).place other = round.place other := by
  unfold place dropHit
  cases there : round.interests.slots[event.1]? with
  | none => rw [Interests.consume_of_none there]
  | some slot => exact congrArg _ ((Interests.consume_revises there event.2).others apart)

theorem dropHit_counted (counted : round.Counted) (event : Nat × Readiness) :
    (round.dropHit event).Counted := by
  unfold dropHit
  cases there : round.interests.slots[event.1]? with
  | none =>
      rw [Interests.consume_of_none there]
      exact counted
  | some slot =>
      have revises := Interests.consume_revises there event.2
      exact ⟨revises.length.trans counted.slots, revises.balanced counted.balanced⟩

theorem dropHit_own {event : Nat × Readiness} {slot after : Slot}
    (there : round.interests.slots[event.1]? = some slot)
    (found : (round.dropHit event).interests.slots[event.1]? = some after) :
    after.wanted = slot.wanted.without (round.hit event) := by
  have revises := Interests.consume_revises there event.2
  have own := revises.own there
  unfold dropHit at found
  unfold hit
  rw [Interests.consume_hit there]
  rw [found] at own
  cases own
  rfl

theorem deliver_sound (sound : round.Sound) (event : Nat × Readiness) :
    (round.deliver transport event).Sound := by
  have counted := dropHit_counted sound.counted event
  rw [deliver_eq]
  by_cases missed : (round.hit event).isEmpty = true
  · rw [if_pos missed]
    refine ⟨counted, ?_⟩
    intro ordinal
    by_cases own : ordinal = event.1
    · subst own
      intro pair slot found busy
      obtain ⟨present, found⟩ := Prod.mk.inj found
      obtain ⟨held, there⟩ := sound.counted.slot present
      have armed := sound.waits event.1 pair held (Prod.ext present there) busy
      have nothing : round.hit event = .empty := of_decide_eq_true missed
      rwa [dropHit_own there found, nothing, Readiness.without_empty]
    · rw [dropHit_place event own]
      exact sound.waits ordinal
  · rw [if_neg missed]
    refine ⟨turnIfPending_counted (framed_handle _) counted _, ?_⟩
    intro ordinal
    by_cases own : ordinal = event.1
    · subst own
      apply turnIfPending_waits (framed_handle _)
      intro pair slot found busy missing
      obtain ⟨present, found⟩ := Prod.mk.inj found
      obtain ⟨held, there⟩ := sound.counted.slot present
      have armed := sound.waits event.1 pair held (Prod.ext present there) (decide_eq_true busy)
      have rest := dropHit_own there found
      have same : round.hit event = event.2.inter held.wanted := Interests.consume_hit there _
      rw [same] at missing rest ⊢
      refine Turn.handle_armed (seat_seated found) busy armed ?_ missing
      rw [seat_wanted found, rest]
    · rw [turnIfPending_place (framed_handle _) own, dropHit_place event own]
      exact sound.waits ordinal

theorem deliverAll_sound (sound : round.Sound) (events : List (Nat × Readiness)) :
    (round.deliverAll transport events).Sound := by
  unfold deliverAll
  induction events generalizing round with
  | nil => exact sound
  | cons event events ih => exact ih (deliver_sound sound event)

def GivenUp (pair : Option (Pair Sock)) : Prop :=
  ∀ present, pair = some present → present.batch.hasPending = true →
    present.connection.link.isAborted = true

theorem over_givenUp (sound : round.Sound)
    (settled : (round.interests.outstanding = 0 || !round.anyPending) = true) (ordinal : Nat) :
    GivenUp round.pairs[ordinal]? := by
  intro pair present busy
  rcases Bool.or_eq_true_iff.mp settled with none | idle
  · obtain ⟨slot, there⟩ := sound.counted.slot present
    have armed := sound.waits ordinal pair slot (Prod.ext present there) busy
    have most := Interests.count_le_outstanding sound.counted.balanced there
    have outstanding : round.interests.outstanding = 0 := of_decide_eq_true none
    have nothing : slot.wanted = .empty := Readiness.eq_empty_of_count (by omega)
    rw [nothing] at armed
    cases link : pair.connection.link with
    | aborted => rfl
    | closed =>
        rw [link] at armed
        exact armed.elim
    | connecting socket =>
        rw [link] at armed
        cases armed
    | connected socket =>
        rw [link] at armed
        cases armed.1 trivial
  · have all : round.anyPending = true :=
      List.any_eq_true.mpr ⟨pair, List.mem_of_getElem? present, busy⟩
    rw [all] at idle
    cases idle

theorem dispatchAll_givenUp (transport : Transport Net Sock) {event : Readiness}
    (settled : event = .timedOut ∨ event = .failing) (ordinal : Nat) :
    GivenUp (round.dispatchAll transport event).pairs[ordinal]? := by
  by_cases inside : ordinal < round.pairs.length
  · refine @eachPair_own _ _ _ _ _ (fun round ordinal => round.pairs[ordinal]?) _
      (fun _ after => GivenUp after)
      (fun round swept _ apart => @turnIfPending_others _ _ (round.dropWanted swept) _ _ apart _)
      ?_ inside
    intro round swept after found busy
    change ((round.dropWanted swept).turnIfPending swept
      fun turn => turn.handle transport event).pairs[swept]? = some after at found
    rcases turnIfPending_cases (round.dropWanted swept) swept
      (fun turn => turn.handle transport event) with ⟨idle, same⟩ | ⟨pair, present, _, same⟩
    · rw [same] at found
      rw [isPending_eq found, busy] at idle
      cases idle
    · rw [same, turn_own present] at found
      cases found
      exact Turn.handle_over settled
  · intro pair present _
    have outside := (List.getElem?_eq_some_iff.mp present).1
    rw [← replay_sweeps, length_replay] at outside
    exact absurd outside inside

theorem loop_givenUp (sound : round.Sound) (remaining ordinal : Nat) :
    GivenUp (round.loop transport remaining).2.pairs[ordinal]? := by
  fun_induction loop transport round remaining with
  | case1 round remaining settled => exact over_givenUp sound settled ordinal
  | case2 round going => exact dispatchAll_givenUp transport (.inl rfl) ordinal
  | case3 round remaining going more error passed network polled failed =>
      exact dispatchAll_givenUp transport (.inr rfl) ordinal
  | case4 round remaining going more passed network polled ih =>
      exact ih ⟨⟨sound.counted.slots, sound.counted.balanced⟩, sound.waits⟩
  | case5 round remaining going more events passed network polled ih =>
      refine ih (deliverAll_sound ?_ events)
      exact ⟨⟨sound.counted.slots, sound.counted.balanced⟩, sound.waits⟩

/-- However a round ends, its pairs have no pending commands or have given up. -/
theorem execute_givenUp (transport : Transport Net Sock) (counted : round.Counted)
    (timeout : Duration) (ordinal : Nat) :
    GivenUp (round.execute transport timeout).2.pairs[ordinal]? := by
  have settled := @loop_givenUp _ _ transport _ (startAll_sound transport counted)
    (round.allowed transport timeout) ordinal
  unfold execute
  dsimp only
  rwa [pairs_record, finishAll_pairs]

/-! ### New rounds -/

/-- A new round with pairs added to it, as far as there is room. -/
def enlist {Place : Type → Type} (engine : Engine) (network : Net)
    (pairs : List (Pair Sock Place)) : Round Net Sock Place :=
  pairs.foldl (fun round pair => (round.add pair).2) (new engine network)

theorem add_counted (counted : round.Counted) (pair : Pair Sock) :
    (round.add pair).2.Counted := by
  unfold add
  dsimp only
  split
  · exact ⟨counted.slots, counted.balanced⟩
  · constructor
    · simp only [Interests.addSlot, List.length_append, List.length_singleton, counted.slots]
    · have balanced := counted.balanced
      unfold Interests.Balanced at balanced ⊢
      rw [Interests.addSlot, Interests.wantedCount_append, ← balanced]
      rfl

theorem enlist_counted (engine : Engine) (network : Net) (pairs : List (Pair Sock)) :
    (enlist engine network pairs).Counted := by
  have extended : ∀ round : Round Net Sock, round.Counted →
      (pairs.foldl (fun round pair => (round.add pair).2) round).Counted := by
    induction pairs with
    | nil =>
        intro round counted
        exact counted
    | cons pair pairs ih =>
        intro round counted
        exact ih _ (add_counted counted pair)
  exact extended (new engine network) ⟨rfl, rfl⟩

end Round

end Fanout
