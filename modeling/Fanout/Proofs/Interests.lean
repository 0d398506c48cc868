import Fanout.Interests

/-!
What the operations on interests do to the slot they name, to the other slots and to the count of
outstanding events.
-/

set_option autoImplicit false

namespace Fanout

namespace Readiness

theorem count_union_without (held added : Readiness) :
    (held.union (added.without held)).count = held.count + (added.without held).count := by
  have field : ∀ left right : Bool,
      (left || (right && !left)).toNat = left.toNat + (right && !left).toNat := by
    intro left right
    cases left <;> cases right <;> rfl
  simp only [union, without, count, field]
  omega

theorem count_without_inter (held ready : Readiness) :
    (held.without (ready.inter held)).count + (ready.inter held).count = held.count := by
  have field : ∀ left right : Bool,
      (left && !(right && left)).toNat + (right && left).toNat = left.toNat := by
    intro left right
    cases left <;> cases right <;> rfl
  have read := field held.read ready.read
  have write := field held.write ready.write
  have timeout := field held.timeout ready.timeout
  have error := field held.error ready.error
  simp only [without, inter, count]
  omega

theorem eq_empty_of_count {events : Readiness} (none : events.count = 0) : events = .empty := by
  obtain ⟨read, write, timeout, error⟩ := events
  cases read <;> cases write <;> cases timeout <;> cases error <;>
    first | rfl | cases none

end Readiness

namespace Interests

variable {before after : Interests} {ordinal : Nat} {slot : Slot}

def wantedCount : List Slot → Nat
  | [] => 0
  | slot :: slots => slot.wanted.count + wantedCount slots

def Balanced (interests : Interests) : Prop :=
  interests.outstanding = wantedCount interests.slots

structure Revises (ordinal : Nat) (slot : Slot) (before after : Interests) : Prop where
  slots : after.slots = before.slots.set ordinal slot
  balanced : before.Balanced → after.Balanced

namespace Revises

theorem length (revises : Revises ordinal slot before after) :
    after.slots.length = before.slots.length := by
  rw [revises.slots, List.length_set]

theorem others (revises : Revises ordinal slot before after) {other : Nat}
    (apart : other ≠ ordinal) : after.slots[other]? = before.slots[other]? := by
  rw [revises.slots, List.getElem?_set_ne (Ne.symm apart)]

theorem own {present : Slot} (revises : Revises ordinal slot before after)
    (there : before.slots[ordinal]? = some present) : after.slots[ordinal]? = some slot := by
  have inside := (List.getElem?_eq_some_iff.mp there).1
  rw [revises.slots, List.getElem?_set_self inside]

theorem trans {later : Interests} {last : Slot} (first : Revises ordinal slot before after)
    (second : Revises ordinal last after later) : Revises ordinal last before later := by
  constructor
  · rw [second.slots, first.slots, List.set_set]
  · intro balanced
    exact second.balanced (first.balanced balanced)

end Revises

theorem wantedCount_append (slots more : List Slot) :
    wantedCount (slots ++ more) = wantedCount slots + wantedCount more := by
  induction slots with
  | nil => exact (Nat.zero_add _).symm
  | cons slot slots ih =>
      rw [List.cons_append, wantedCount, wantedCount, ih, Nat.add_assoc]

theorem wantedCount_set {slots : List Slot} {ordinal : Nat} {present : Slot} (slot : Slot)
    (there : slots[ordinal]? = some present) :
    wantedCount (slots.set ordinal slot) + present.wanted.count =
      wantedCount slots + slot.wanted.count := by
  induction slots generalizing ordinal with
  | nil => cases there
  | cons first rest ih =>
      cases ordinal with
      | zero =>
          cases there
          rw [List.set_cons_zero, wantedCount, wantedCount]
          omega
      | succ ordinal =>
          have later := ih there
          rw [List.set_cons_succ, wantedCount, wantedCount]
          omega

theorem count_le_outstanding {present : Slot} (balanced : before.Balanced)
    (there : before.slots[ordinal]? = some present) :
    present.wanted.count ≤ before.outstanding := by
  have without := wantedCount_set {} there
  have nothing : ({} : Slot).wanted.count = 0 := rfl
  unfold Balanced at balanced
  omega

theorem revises_of_count {present : Slot} (there : before.slots[ordinal]? = some present)
    (changed : after.slots = before.slots.set ordinal slot)
    (counted : before.Balanced →
      after.outstanding + present.wanted.count = before.outstanding + slot.wanted.count) :
    Revises ordinal slot before after := by
  refine ⟨changed, ?_⟩
  intro balanced
  have moved := counted balanced
  have sum := wantedCount_set slot there
  unfold Balanced at balanced ⊢
  rw [changed]
  omega

theorem setSlot_revises {present : Slot} (there : before.slots[ordinal]? = some present)
    (same : slot.wanted = present.wanted) :
    Revises ordinal slot before (before.setSlot ordinal slot) := by
  apply revises_of_count there rfl
  intro _
  rw [same]
  rfl

def asking (event wanted : Readiness) : Readiness :=
  wanted.union ((event.inter .io).without wanted)

theorem want_ok {present : Slot} (there : before.slots[ordinal]? = some present)
    (event : Readiness) :
    ∃ marked, before.want ordinal event = .ok (marked, asking event present.wanted) ∧
      Revises ordinal { present with wanted := asking event present.wanted } before marked := by
  unfold want
  rw [there]
  refine ⟨_, rfl, revises_of_count there rfl ?_⟩
  intro _
  have added := Readiness.count_union_without present.wanted (event.inter .io)
  simp only [asking]
  omega

theorem confirm_revises {present : Slot} (there : before.slots[ordinal]? = some present) :
    Revises ordinal { present with registered := true } before (before.confirm ordinal) := by
  unfold confirm
  rw [there]
  exact setSlot_revises there rfl

theorem isRegistered_of_slot {present : Slot} (there : before.slots[ordinal]? = some present) :
    before.isRegistered ordinal = present.registered := by
  unfold isRegistered
  rw [there]
  rfl

/-- The slot of a pair that asks for an event, the answer of the poller and the peer after it. -/
def askSlot {σ : Type} (slot : Slot) (event : Readiness) (poller : Poller σ) (peer : σ) :
    Option IoError × Slot × σ :=
  let wanted := asking event slot.wanted
  if wanted.isEmpty then (none, { slot with wanted := wanted }, peer)
  else if slot.registered then
    let (refusal, peer) := poller.reregister peer wanted
    (refusal, { slot with wanted := wanted }, peer)
  else
    match poller.register peer wanted with
    | (none, peer) => (none, ⟨wanted, true⟩, peer)
    | (some error, peer) => (some error, { slot with wanted := wanted }, peer)

theorem askSlot_wanted {σ : Type} (slot : Slot) (event : Readiness) (poller : Poller σ)
    (peer : σ) : (askSlot slot event poller peer).2.1.wanted = asking event slot.wanted := by
  unfold askSlot
  dsimp only
  split
  · rfl
  · split
    · rfl
    · split <;> rfl

/-- Asking depends on the slot of the pair only, and changes nothing but that slot. -/
theorem notify_eq {σ : Type} {present : Slot} (there : before.slots[ordinal]? = some present)
    (event : Readiness) (poller : Poller σ) (peer : σ) :
    ∃ after,
      before.notify ordinal event poller peer =
        .ok ((askSlot present event poller peer).1, after,
          (askSlot present event poller peer).2.2) ∧
      Revises ordinal (askSlot present event poller peer).2.1 before after := by
  obtain ⟨marked, wanted, revises⟩ := want_ok there event
  unfold notify askSlot
  rw [wanted, isRegistered_of_slot there]
  dsimp only
  by_cases nothing : (asking event present.wanted).isEmpty = true
  · rw [if_pos nothing, if_pos nothing]
    exact ⟨marked, rfl, revises⟩
  · rw [if_neg nothing, if_neg nothing]
    by_cases known : present.registered = true
    · rw [if_pos known, if_pos known]
      exact ⟨marked, rfl, revises⟩
    · rw [if_neg known, if_neg known]
      cases poller.register peer (asking event present.wanted) with
      | mk refusal later =>
          cases refusal with
          | none => exact ⟨_, rfl, revises.trans (confirm_revises (revises.own there))⟩
          | some error => exact ⟨marked, rfl, revises⟩

theorem notify_of_none {σ : Type} (missing : before.slots[ordinal]? = none) (event : Readiness)
    (poller : Poller σ) (peer : σ) :
    before.notify ordinal event poller peer = .error .outOfRange := by
  unfold notify want
  rw [missing]

theorem consume_revises {present : Slot} (there : before.slots[ordinal]? = some present)
    (ready : Readiness) :
    Revises ordinal { present with wanted := present.wanted.without (ready.inter present.wanted) }
      before (before.consume ordinal ready).2 := by
  unfold consume
  rw [there]
  apply revises_of_count there rfl
  intro balanced
  have most := count_le_outstanding balanced there
  have parts := Readiness.count_without_inter present.wanted ready
  dsimp only
  omega

theorem consume_hit {present : Slot} (there : before.slots[ordinal]? = some present)
    (ready : Readiness) :
    (before.consume ordinal ready).1 = ready.inter present.wanted := by
  unfold consume
  rw [there]

theorem consume_of_none (missing : before.slots[ordinal]? = none) (ready : Readiness) :
    before.consume ordinal ready = (.empty, before) := by
  unfold consume
  rw [missing]

def forgotten (slot : Slot) : Slot :=
  { wanted := slot.wanted.without (Readiness.io.inter slot.wanted), registered := false }

theorem forget_ok {present : Slot} (there : before.slots[ordinal]? = some present) :
    ∃ after, before.forget ordinal = .ok after ∧
      Revises ordinal (forgotten present) before after := by
  have taken := consume_revises there .io
  have own := taken.own there
  unfold forget takeAll
  dsimp only
  rw [own]
  exact ⟨_, rfl, taken.trans (setSlot_revises own rfl)⟩

theorem forget_of_none (missing : before.slots[ordinal]? = none) :
    before.forget ordinal = .error .outOfRange := by
  unfold forget takeAll
  rw [consume_of_none missing]
  dsimp only
  rw [missing]

theorem forget_own (before : Interests) (ordinal : Nat) :
    ((before.forget ordinal).toOption.getD before).slots[ordinal]? =
      before.slots[ordinal]?.map forgotten := by
  cases there : before.slots[ordinal]? with
  | none =>
      rw [forget_of_none there]
      exact there
  | some slot =>
      obtain ⟨after, forgets, revises⟩ := forget_ok there
      rw [forgets]
      exact revises.own there

theorem isRegistered_consume (before : Interests) (other : Nat) (ready : Readiness)
    (ordinal : Nat) :
    (before.consume other ready).2.isRegistered ordinal = before.isRegistered ordinal := by
  cases there : before.slots[other]? with
  | none => rw [consume_of_none there]
  | some slot =>
      have revises := consume_revises there ready
      by_cases own : ordinal = other
      · subst own
        rw [isRegistered_of_slot (revises.own there), isRegistered_of_slot there]
      · unfold isRegistered
        rw [revises.others own]

theorem isRegistered_forget (before : Interests) (ordinal : Nat) :
    ((before.forget ordinal).toOption.getD before).isRegistered ordinal = false := by
  unfold isRegistered
  rw [forget_own]
  cases before.slots[ordinal]? <;> rfl

end Interests

end Fanout
