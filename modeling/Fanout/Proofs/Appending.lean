import Mathlib.Order.Bounds.Defs
import Fanout.Proofs.Region

/-!
Writing into a buffer is appending to a byte string with a ceiling. A write fits below the ceiling
or it is refused, and the size that a buffer grows to is the least one that doubling reaches, cut at
the ceiling. That holds in machine words as well: a doubling that does not fit a word is beyond
every ceiling that does.
-/

set_option autoImplicit false

namespace Fanout.Buffer

variable {size ceiling amount needed capacity : Nat} {bytes : ByteArray}
  {before after state : Metered Buffer}

/-! ### Growth -/

/-- The sizes that doubling leads to and that are large enough. -/
def doublings (size needed : Nat) : Set Nat :=
  { larger | (∃ times, larger = size * 2 ^ times) ∧ needed ≤ larger }

theorem doublings_double (short : capacity < needed) :
    doublings (2 * capacity) needed = doublings capacity needed := by
  apply Set.ext
  intro larger
  constructor
  · rintro ⟨⟨times, rfl⟩, enough⟩
    refine ⟨⟨times + 1, ?_⟩, enough⟩
    rw [Nat.pow_succ', Nat.mul_left_comm, Nat.mul_assoc]
  · rintro ⟨⟨times, rfl⟩, enough⟩
    cases times with
    | zero =>
        rw [Nat.pow_zero, Nat.mul_one] at enough
        exact absurd short (Nat.not_lt_of_le enough)
    | succ times =>
        refine ⟨⟨times, ?_⟩, enough⟩
        rw [Nat.pow_succ', Nat.mul_left_comm, Nat.mul_assoc]

theorem isLeast_doubledUntil (needed : Nat) (positive : 0 < capacity) :
    IsLeast (doublings capacity needed) (doubledUntil needed capacity) := by
  fun_induction doubledUntil needed capacity with
  | case1 capacity short ih =>
      rw [← doublings_double short.2]
      exact ih (by omega)
  | case2 capacity enough =>
      refine ⟨⟨⟨0, ?_⟩, by omega⟩, ?_⟩
      · rw [Nat.pow_zero, Nat.mul_one]
      · rintro larger ⟨⟨times, rfl⟩, _⟩
        exact Nat.le_mul_of_pos_right capacity (Nat.two_pow_pos times)

/-- Doubling in a machine word: what does not fit one becomes the largest one. -/
def doubledInWord (needed capacity : Nat) : Nat :=
  if 0 < capacity ∧ capacity < min needed largestWord then
    doubledInWord needed (min (2 * capacity) largestWord)
  else capacity
termination_by largestWord - capacity

/-- Below a ceiling that fits a word nothing can be seen of the largest word. -/
theorem min_doubledInWord (capacity : Nat) (word : ceiling ≤ largestWord)
    (within : needed ≤ ceiling) :
    min (doubledInWord needed capacity) ceiling = min (doubledUntil needed capacity) ceiling := by
  fun_induction doubledInWord needed capacity with
  | case1 capacity short ih =>
      rw [ih, doubledUntil.eq_def needed capacity, if_pos (by omega)]
      by_cases small : 2 * capacity ≤ largestWord
      · rw [Nat.min_eq_left small]
      · have cut : min (2 * capacity) largestWord = largestWord := Nat.min_eq_right (by omega)
        rw [cut, doubledUntil.eq_def needed largestWord, if_neg (by omega),
          doubledUntil.eq_def needed (2 * capacity), if_neg (by omega)]
        omega
  | case2 capacity enough =>
      rw [doubledUntil.eq_def needed capacity, if_neg (by omega)]

/-- Room that is not there is made by doubling, up to the ceiling. -/
theorem capacity_ensured (ready : before.item.Ready)
    (ensured : ensureRemaining amount before = .ok () after) :
    after.item.capacity =
      if before.item.position + amount ≤ before.item.capacity then before.item.capacity
      else min before.item.ceiling
        (doubledUntil (before.item.position + amount) (max before.item.limit 1)) := by
  obtain ⟨ordered, inside⟩ := ready
  unfold ensureRemaining at ensured
  dsimp only at ensured
  split at ensured
  · cases ensured
  · rename_i writeMode
    unfold remaining at ensured
    split at ensured
    · cases ensured
      rw [if_pos (by omega)]
    · split at ensured
      · cases ensured
      · rename_i tight within
        cases ensured
        have grown := le_doubledUntil (before.item.position + amount) (max before.item.limit 1)
          (by omega)
        rw [if_neg (by omega), capacity_extend, grownCapacity]
        omega

/-! ### One write -/

/-- Writing bytes is appending them, if the ceiling leaves room for them: the buffer grows only when
it must, to the least size that doubling reaches or to its ceiling. Otherwise the write is refused
and leaves everything as it was. -/
structure Refines (bytes : ByteArray) (before : Metered Buffer) : Prop where
  succeeds : (∃ after, write bytes before = .ok () after) ↔
    before.item.position + bytes.size ≤ before.item.ceiling
  appends : ∀ after, write bytes before = .ok () after → Appended bytes before after
  stays : ∀ after, write bytes before = .ok () after →
    before.item.position + bytes.size ≤ before.item.capacity →
    after.item.capacity = before.item.capacity
  grows : ∀ after, write bytes before = .ok () after →
    before.item.capacity < before.item.position + bytes.size →
    ∃ least,
      IsLeast (doublings (max before.item.limit 1) (before.item.position + bytes.size)) least ∧
        after.item.capacity = min before.item.ceiling least
  /-- It is the size that machine words give. -/
  fits : ∀ after, write bytes before = .ok () after → before.item.ceiling ≤ largestWord →
    before.item.capacity < before.item.position + bytes.size →
    after.item.capacity = min
      (doubledInWord (before.item.position + bytes.size) (max before.item.limit 1))
      before.item.ceiling
  refuses : ∀ failure after, write bytes before = .error failure after →
    failure = .outOfMemory
        ⟨min (before.item.position + bytes.size) largestWord, before.item.ceiling⟩ ∧
      after = before

theorem write_refines (ready : before.item.Ready) (limited : before.item.Limited)
    (writeMode : before.item.limit = before.item.capacity) (bytes : ByteArray) :
    Refines bytes before := by
  rcases ensureRemaining_cases ready limited bytes.size with
    ⟨other, _⟩ | ⟨_, beyond, refused⟩ | ⟨made, _, within, ensured, reserves⟩
  · exact absurd writeMode other
  · have refused' : write bytes before = .error (.outOfMemory
        ⟨min (before.item.position + bytes.size) largestWord, before.item.ceiling⟩) before := by
      rw [write_eq, refused]
    constructor
    case succeeds =>
      rw [refused']
      exact ⟨nofun, fun within => absurd beyond (Nat.not_lt_of_le within)⟩
    case refuses =>
      rw [refused']
      intro failure after same
      cases same
      exact ⟨rfl, rfl⟩
    all_goals
      rw [refused']
      exact nofun
  · have wrote : write bytes before = .ok () { made with item := made.item.store bytes } := by
      rw [write_eq, ensured]
    have only : ∀ after, write bytes before = .ok () after →
        after = { made with item := made.item.store bytes } := by
      intro after same
      cases wrote.symm.trans same
      rfl
    have same := (fits_of_ensured ensured (Nat.le_refl bytes.size)).capacity
    have capacity := same.trans (capacity_ensured ready ensured)
    constructor
    case succeeds => exact ⟨fun _ => within, fun _ => ⟨_, wrote⟩⟩
    case appends =>
      intro after done
      rw [only after done]
      exact reserves.appended (ready.holds writeMode) ensured
    case stays =>
      intro after done enough
      rw [only after done]
      rw [if_pos enough] at capacity
      exact capacity
    case grows =>
      intro after done short
      rw [only after done]
      rw [if_neg (Nat.not_le_of_lt short)] at capacity
      exact ⟨_, isLeast_doubledUntil _ (by omega), capacity⟩
    case fits =>
      intro after done word short
      rw [only after done, min_doubledInWord _ word within, Nat.min_comm]
      rw [if_neg (Nat.not_le_of_lt short)] at capacity
      exact capacity
    case refuses =>
      rw [wrote]
      exact nofun

/-! ### Many writes -/

/-- A buffer that was made and then used in any way. Other buffers report to the same counters. -/
inductive Used (size ceiling : Nat) : Metered Buffer → Prop where
  | made (memory : MemoryStats) : Used size ceiling (allocate size ceiling memory)
  | acted {state : Metered Buffer} (used : Used size ceiling state) (action : Action) :
      Used size ceiling (action.operation.leaves state)
  | shared {state : Metered Buffer} (used : Used size ceiling state) (memory : MemoryStats) :
      Used size ceiling { state with memory := memory }

theorem Used.inOrder (used : Used size ceiling state) : state.item.InOrder size ceiling := by
  induction used with
  | made memory => exact inOrder_new size ceiling
  | acted used action ih => exact ih.perform action
  | shared used memory ih => exact ih

/-- Those of the pieces that are written when all are tried one after the other. -/
def stored (state : Metered Buffer) : List ByteArray → List ByteArray
  | [] => []
  | bytes :: others =>
      match write bytes state with
      | .ok () after => bytes :: stored after others
      | .error _ kept => stored kept others

def joined (content : ByteArray) (pieces : List ByteArray) : ByteArray :=
  pieces.foldl (· ++ ·) content

theorem writes_joined (inOrder : state.item.InOrder size ceiling)
    (writeMode : state.item.limit = state.item.capacity) (pieces : List ByteArray) :
    (performAll (pieces.map .write) state).item.filled =
        joined state.item.filled (stored state pieces) ∧
      (performAll (pieces.map .write) state).item.limit =
        (performAll (pieces.map .write) state).item.capacity := by
  induction pieces generalizing state with
  | nil => exact ⟨rfl, writeMode⟩
  | cons bytes others ih =>
      have refines := write_refines inOrder.ready inOrder.limited writeMode bytes
      have kept := inOrder.perform (.write bytes)
      have rest : performAll ((bytes :: others).map .write) state =
          performAll (others.map .write) ((write bytes).leaves state) := rfl
      rw [rest]
      change ((write bytes).leaves state).item.InOrder size ceiling at kept
      unfold Attempt.leaves at kept ⊢
      unfold stored
      cases wrote : write bytes state with
      | ok value after =>
          rw [wrote] at kept
          obtain ⟨filled, same, _⟩ := refines.appends after wrote
          have writeMode' : after.item.limit = after.item.capacity := congrArg Buffer.limit same
          obtain ⟨content, ends⟩ := ih kept writeMode'
          rw [filled] at content
          exact ⟨content, ends⟩
      | error failure unchanged =>
          obtain ⟨_, rfl⟩ := refines.refuses failure unchanged wrote
          exact ih inOrder writeMode

/-- Writing into a buffer refines appending to a byte string with a ceiling. However it was used
before, once it is in write mode every write succeeds just when the bytes end below the ceiling, and
appends them; what is readable after all is what was there, then the pieces that were written. -/
theorem writes_refine_appending {first : Metered Buffer} (used : Used size ceiling first)
    (writeMode : first.item.limit = first.item.capacity) (pieces : List ByteArray) :
    let last := performAll (pieces.map .write) first
    last.item.flip.readable = joined first.item.filled (stored first pieces) ∧
      (first.item.position = 0 →
        last.item.flip.readable = joined .empty (stored first pieces)) ∧
      last.item.limit = last.item.capacity ∧ last.item.ceiling = max ceiling size ∧
      ∀ bytes : ByteArray, Refines bytes last := by
  intro last
  obtain ⟨filled, ends⟩ := writes_joined used.inOrder writeMode pieces
  obtain ⟨ready, sized, limited⟩ := used.inOrder.performAll (pieces.map .write)
  have readable : last.item.flip.readable = joined first.item.filled (stored first pieces) := filled
  refine ⟨readable, ?_, ends, sized.ceiling, fun bytes => write_refines ready limited ends bytes⟩
  intro start
  rw [readable, (holds_of_start start writeMode).filled]

/-- A buffer that begins with nothing: it grows twice, turns down the third piece and takes one more
that fills it to its ceiling. -/
theorem writes_refine_appending_full :
    let pieces : List ByteArray := [⟨#[1, 2, 3]⟩, ⟨#[4, 5]⟩, ⟨#[6, 7]⟩, ⟨#[8]⟩]
    let last := performAll (pieces.map .write) (allocate 0 6 {})
    last.item.flip.readable = ⟨#[1, 2, 3, 4, 5, 8]⟩ ∧ last.item.capacity = 6 ∧
      write ⟨#[9]⟩ last = .error (.outOfMemory ⟨7, 6⟩) last := by
  obtain ⟨_, readable, _, _, refines⟩ := writes_refine_appending (.made {} : Used 0 6 _) rfl
    [⟨#[1, 2, 3]⟩, ⟨#[4, 5]⟩, ⟨#[6, 7]⟩, ⟨#[8]⟩]
  refine ⟨(readable rfl).trans (by decide +kernel), by decide +kernel, ?_⟩
  cases wrote : write ⟨#[9]⟩ (performAll _ (allocate 0 6 {})) with
  | ok value after =>
      have within := (refines ⟨#[9]⟩).succeeds.mp ⟨after, wrote⟩
      exact absurd within (by decide +kernel)
  | error failure after =>
      obtain ⟨rfl, rfl⟩ := (refines ⟨#[9]⟩).refuses failure after wrote
      refine congrArg (fun shortage => EStateM.Result.error (Failure.outOfMemory shortage) _) ?_
      decide +kernel

end Fanout.Buffer
