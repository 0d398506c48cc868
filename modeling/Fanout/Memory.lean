import Fanout.Failure

/-!
Memory accounting. Every buffer that belongs to an engine reports what it takes and gives back
to the same counters, so a leak shows as a balance that is not zero at the end.
-/

set_option autoImplicit false

namespace Fanout

/-- Counters of one machine word each; sums wrap around. -/
structure MemoryStats where
  allocated : UInt64 := 0
  peak : UInt64 := 0
  grows : UInt64 := 0
  deriving DecidableEq, Repr

namespace MemoryStats

def recordAlloc (stats : MemoryStats) (bytes : Nat) : MemoryStats :=
  let allocated := stats.allocated + UInt64.ofNat bytes
  { stats with allocated := allocated, peak := max stats.peak allocated }

def recordFree (stats : MemoryStats) (bytes : Nat) : MemoryStats :=
  { stats with allocated := stats.allocated - UInt64.ofNat bytes }

/-- A region changed its size; every such change counts, also one that gives bytes back. -/
def recordGrow (stats : MemoryStats) (before after : Nat) : MemoryStats :=
  let counted := { stats with grows := stats.grows + 1 }
  if before ≤ after then counted.recordAlloc (after - before)
  else counted.recordFree (before - after)

end MemoryStats

/-- A value together with the counters that its buffers report to. -/
structure Metered (α : Type) where
  item : α
  memory : MemoryStats

/-- An operation that leaves a state behind even when it fails. -/
abbrev Attempt (σ α : Type) := EStateM Failure σ α

/-- Runs an operation of a part inside the whole. -/
def Attempt.within {σ τ α : Type} (part : τ → σ) (replace : τ → σ → τ)
    (operation : Attempt σ α) : Attempt τ α := fun whole =>
  match operation (part whole) with
  | .ok value changed => .ok value (replace whole changed)
  | .error failure changed => .error failure (replace whole changed)

end Fanout
