import Fanout.Failure
import Fanout.Readiness

/-!
What the pairs of a round wait for. Each direction that a pair asks for counts as one outstanding
event until it is delivered, and the round has nothing to wait for once none is outstanding.
-/

set_option autoImplicit false

namespace Fanout

/-- The events that one pair waits for, and whether its socket is known to the poller. -/
structure Slot where
  wanted : Readiness := {}
  registered : Bool := false
  deriving DecidableEq, Repr

/-- How a peer becomes known to a poller, and how one that is known is armed again. The poller may
refuse either. -/
structure Poller (σ : Type) where
  register : σ → Readiness → Option IoError × σ
  reregister : σ → Readiness → Option IoError × σ

/-- A poller that always gives the same answer. -/
def Poller.answering {σ : Type} (refusal : Option IoError) : Poller σ :=
  ⟨fun peer _ => (refusal, peer), fun peer _ => (refusal, peer)⟩

structure Interests where
  slots : List Slot := []
  outstanding : Nat := 0
  deriving DecidableEq, Repr

namespace Interests

variable (interests : Interests)

def addSlot : Interests := { interests with slots := interests.slots ++ [{}] }

def setSlot (ordinal : Nat) (slot : Slot) : Interests :=
  { interests with slots := interests.slots.set ordinal slot }

/-- Marks the directions of `event` as wanted. The result names everything the pair wants now:
that is what its socket has to be watched for, unless it is empty. -/
def want (ordinal : Nat) (event : Readiness) : Except Misuse (Interests × Readiness) :=
  match interests.slots[ordinal]? with
  | none => .error .outOfRange
  | some slot =>
      let added := (event.inter .io).without slot.wanted
      let wanted := slot.wanted.union added
      let marked := interests.setSlot ordinal { slot with wanted := wanted }
      .ok ({ marked with outstanding := interests.outstanding + added.count }, wanted)

def isRegistered (ordinal : Nat) : Bool :=
  (interests.slots[ordinal]?.map Slot.registered).getD false

/-- The poller took the socket of a pair. -/
def confirm (ordinal : Nat) : Interests :=
  match interests.slots[ordinal]? with
  | none => interests
  | some slot => interests.setSlot ordinal { slot with registered := true }

/-- Asks for an event. The poller is told everything the pair wants now and may refuse; what was
asked for stays wanted then. -/
def notify {σ : Type} (ordinal : Nat) (event : Readiness) (poller : Poller σ) (peer : σ) :
    Except Misuse (Option IoError × Interests × σ) :=
  match interests.want ordinal event with
  | .error rule => .error rule
  | .ok (marked, wanted) =>
      if wanted.isEmpty then .ok (none, marked, peer)
      else if interests.isRegistered ordinal then
        let (refusal, peer) := poller.reregister peer wanted
        .ok (refusal, marked, peer)
      else
        match poller.register peer wanted with
        | (none, peer) => .ok (none, marked.confirm ordinal, peer)
        | (some error, peer) => .ok (some error, marked, peer)

/-- Delivers events to a pair: those that it wanted, which it then wants no more. -/
def consume (ordinal : Nat) (ready : Readiness) : Readiness × Interests :=
  match interests.slots[ordinal]? with
  | none => (.empty, interests)
  | some slot =>
      let hit := ready.inter slot.wanted
      let marked := interests.setSlot ordinal { slot with wanted := slot.wanted.without hit }
      (hit, { marked with outstanding := interests.outstanding - hit.count })

def takeAll (ordinal : Nat) : Readiness × Interests := interests.consume ordinal .io

/-- Drops everything a pair waits for before its socket goes away. A registered socket has to be
deregistered with it. -/
def forget (ordinal : Nat) : Except Misuse Interests :=
  let taken := (interests.takeAll ordinal).2
  match taken.slots[ordinal]? with
  | none => .error .outOfRange
  | some slot => .ok (taken.setSlot ordinal { slot with registered := false })

end Interests

end Fanout
