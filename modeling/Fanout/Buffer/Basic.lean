import Fanout.Memory

/-!
A growable region of bytes with a position and a limit. In write mode the limit is the capacity
and bytes are stored at the position; `flip` turns the stored bytes into the readable ones.
Growth doubles the capacity until a request fits, never beyond the ceiling, and only adds room
at the end, so an offset into the region stays good.
-/

set_option autoImplicit false

namespace Fanout

structure Buffer where
  /-- The whole region; its size is the capacity. -/
  data : ByteArray
  initialCapacity : Nat
  position : Nat
  limit : Nat
  /-- The capacity never grows beyond this. -/
  ceiling : Nat

namespace Buffer

/-- Fills memory that holds no content yet, so that reading it is noticed. -/
def poisonByte : UInt8 := 0xEA

def defaultCeiling : Nat := 1024 * 1024 * 1024

def solid (size : Nat) (byte : UInt8) : ByteArray := ⟨Array.replicate size byte⟩

theorem size_solid (size : Nat) (byte : UInt8) : (solid size byte).size = size :=
  Array.size_replicate

/-- An empty buffer in write mode. -/
def new (size ceiling : Nat) : Buffer :=
  { data := solid size poisonByte
    initialCapacity := size
    position := 0
    limit := size
    ceiling := max ceiling size }

def allocate (size ceiling : Nat) (memory : MemoryStats) : Metered Buffer :=
  ⟨new size ceiling, memory.recordAlloc size⟩

variable (buffer : Buffer)

def capacity : Nat := buffer.data.size

def remaining : Nat := buffer.limit - buffer.position

/-- The bytes before the position: in write mode, what was stored. -/
def filled : ByteArray := buffer.data.extract 0 buffer.position

/-- The bytes from the position to the limit: in read mode, what is left to read. -/
def readable : ByteArray := buffer.data.extract buffer.position buffer.limit

def slice (offset length : Nat) : Except Misuse ByteArray :=
  if offset + length ≤ buffer.capacity then
    .ok (buffer.data.extract offset (offset + length))
  else .error .outOfRange

/-- Turns write mode into read mode. -/
def flip : Buffer := { buffer with limit := buffer.position, position := 0 }

def fill (byte : UInt8) : Buffer := { buffer with data := solid buffer.capacity byte }

/-- Puts bytes at the position and steps over them. -/
def store (bytes : ByteArray) : Buffer :=
  let stop := buffer.position + bytes.size
  { buffer with
    data := buffer.data.extract 0 buffer.position ++ bytes ++
      buffer.data.extract stop buffer.capacity
    position := stop }

theorem capacity_store (buffer : Buffer) (bytes : ByteArray)
    (fits : buffer.position + bytes.size ≤ buffer.capacity) :
    (buffer.store bytes).capacity = buffer.capacity := by
  have inside : buffer.position + bytes.size ≤ buffer.data.size := fits
  simp only [capacity, store, ByteArray.size_append, ByteArray.size_extract]
  omega

/-- Adds zero bytes at the end; write mode is kept. -/
def extend (capacity : Nat) : Buffer :=
  { buffer with
    data := buffer.data ++ solid (capacity - buffer.capacity) 0
    limit := capacity }

/-- The least of `capacity`, twice it, four times it, … that is not below `needed`. -/
def doubledUntil (needed capacity : Nat) : Nat :=
  if 0 < capacity ∧ capacity < needed then doubledUntil needed (2 * capacity) else capacity
termination_by needed - capacity

theorem le_doubledUntil (needed capacity : Nat) (positive : 0 < capacity) :
    needed ≤ doubledUntil needed capacity := by
  fun_induction doubledUntil needed capacity with
  | case1 capacity short ih => exact ih (by omega)
  | case2 capacity enough => omega

def grownCapacity (needed : Nat) : Nat :=
  min (doubledUntil needed (max buffer.limit 1)) buffer.ceiling

abbrev Operation (α : Type) := Attempt (Metered Buffer) α

def setPosition (position : Nat) : Operation Unit := fun state =>
  if position ≤ state.item.limit then
    .ok () { state with item := { state.item with position := position } }
  else .error (.misuse (.positionBeyondLimit position state.item.limit)) state

/-- Moves the limit; a position beyond it is pulled back. -/
def setLimit (limit : Nat) : Operation Unit := fun state =>
  if limit ≤ state.item.capacity then
    .ok () { state with
      item := { state.item with limit := limit, position := min state.item.position limit } }
  else .error (.misuse (.limitBeyondCapacity limit state.item.capacity)) state

/-- Returns to an empty buffer in write mode and gives grown memory back. Bytes of a region that
kept its size stay in place. -/
def clear (state : Metered Buffer) : Metered Buffer :=
  let buffer := state.item
  if buffer.initialCapacity < buffer.capacity then
    { item := { buffer with
        data := solid buffer.initialCapacity 0
        position := 0
        limit := buffer.initialCapacity }
      memory := state.memory.recordFree (buffer.capacity - buffer.initialCapacity) }
  else { state with item := { buffer with position := 0, limit := buffer.capacity } }

def release (state : Metered Buffer) : MemoryStats :=
  state.memory.recordFree state.item.capacity

def ensureRemaining (amount : Nat) : Operation Unit := fun state =>
  let buffer := state.item
  let needed := buffer.position + amount
  if buffer.limit ≠ buffer.capacity then .error (.misuse .growthInReadMode) state
  else if amount ≤ buffer.remaining then .ok () state
  else if buffer.ceiling < needed then
    .error (.outOfMemory ⟨min needed largestWord, buffer.ceiling⟩) state
  else
    let capacity := buffer.grownCapacity needed
    .ok () ⟨buffer.extend capacity, state.memory.recordGrow buffer.capacity capacity⟩

def roomLeft (buffer : Buffer) : Nat := max buffer.capacity buffer.ceiling - buffer.position

theorem ensureRemaining_ok {amount : Nat} {state after : Metered Buffer}
    (ensured : ensureRemaining amount state = .ok () after) :
    after.item.position = state.item.position ∧ after.item.limit = after.item.capacity ∧
      after.item.roomLeft = state.item.roomLeft := by
  unfold ensureRemaining at ensured
  dsimp only at ensured
  split at ensured
  · cases ensured
  · rename_i writeMode
    split at ensured
    · cases ensured
      exact ⟨rfl, by omega, rfl⟩
    · rename_i tight
      split at ensured
      · cases ensured
      · rename_i below
        cases ensured
        have grown := le_doubledUntil (state.item.position + amount) (max state.item.limit 1)
          (by omega)
        simp only [roomLeft, extend, capacity, ByteArray.size_append, size_solid, grownCapacity,
          remaining] at *
        exact ⟨trivial, by omega, by omega⟩

theorem ensureRemaining_error {amount : Nat} {state after : Metered Buffer} {failure : Failure}
    (refused : ensureRemaining amount state = .error failure after) : after = state := by
  unfold ensureRemaining at refused
  dsimp only at refused
  repeat' split at refused
  all_goals cases refused
  all_goals rfl

theorem ensureRemaining_failure {amount : Nat} {state after : Metered Buffer} {failure : Failure}
    (refused : ensureRemaining amount state = .error failure after) :
    (∃ shortage, failure = .outOfMemory shortage) ∨ ∃ rule, failure = .misuse rule := by
  unfold ensureRemaining at refused
  dsimp only at refused
  repeat' split at refused
  all_goals cases refused
  · exact .inr ⟨_, rfl⟩
  · exact .inl ⟨_, rfl⟩

/-- Appends bytes at the position, growing as needed. -/
def write (bytes : ByteArray) : Operation Unit := do
  ensureRemaining bytes.size
  modify fun state => { state with item := state.item.store bytes }

end Buffer

end Fanout
