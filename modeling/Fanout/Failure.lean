/-!
Why an operation is turned down. A failure is either a limit of the machine or of the
transport, which a careful caller must expect, or a misuse: a call that breaks a rule of use.
Each cause has one text, written here and nowhere else.
-/

set_option autoImplicit false

namespace Fanout

/-- The largest size that fits a machine word. -/
def largestWord : Nat := 0xFFFFFFFFFFFFFFFF

theorem one_le_largestWord : 1 ≤ largestWord := by decide

/-- A call that breaks a rule of use. The object it was made on keeps its state. -/
inductive Misuse where
  | positionBeyondLimit (position limit : Nat)
  | limitBeyondCapacity (limit capacity : Nat)
  | growthInReadMode
  | parserBeyondInput (position size : Nat)
  | emptyCommand
  | batchExecuted
  | unexpectedReply
  | alreadyAborted
  | outOfRange
  | countOverflow
  deriving DecidableEq, Repr

/-- The rule that was broken; an index out of range and a sum beyond a word have no text of their
own. -/
def Misuse.message : Misuse → Option String
  | .positionBeyondLimit position limit => some s!"position {position} beyond limit {limit}"
  | .limitBeyondCapacity limit capacity => some s!"limit {limit} beyond capacity {capacity}"
  | .growthInReadMode => some "buffer must be in write mode to grow"
  | .parserBeyondInput position size =>
      some s!"parser position {position} beyond input length {size}"
  | .emptyCommand => some "a command needs at least one argument"
  | .batchExecuted => some "batch was executed; call reset() first"
  | .unexpectedReply => some "reply received without a pending command"
  | .alreadyAborted => some "batch already aborted"
  | .outOfRange | .countOverflow => none

/-- The rule that a call has broken, if it has. -/
def Misuse.of? {α : Type} : Except Misuse α → Option Misuse
  | .ok _ => none
  | .error rule => some rule

structure OutOfMemory where
  requested : Nat
  ceiling : Nat
  deriving DecidableEq, Repr

def OutOfMemory.message (shortage : OutOfMemory) : String :=
  let requested := shortage.requested
  let ceiling := shortage.ceiling
  s!"out of memory: buffer needs {requested} bytes (max: {ceiling})"

inductive IoError where
  | wouldBlock
  | interrupted
  | connectionReset
  | brokenPipe
  | writeZero
  | outOfMemory (shortage : OutOfMemory)
  /-- An error number of the operating system with its description. -/
  | system (description : String) (number : Nat)
  deriving DecidableEq, Repr

def IoError.message : IoError → String
  | .wouldBlock => "operation would block"
  | .interrupted => "operation interrupted"
  | .connectionReset => "connection reset"
  | .brokenPipe => "broken pipe"
  | .writeZero => "write zero"
  | .outOfMemory shortage => shortage.message
  | .system description number => s!"{description} (os error {number})"

inductive Failure where
  | outOfMemory (shortage : OutOfMemory)
  | io (error : IoError)
  | misuse (rule : Misuse)
  deriving DecidableEq, Repr

def Failure.message : Failure → Option String
  | .outOfMemory shortage => some shortage.message
  | .io error => some error.message
  | .misuse rule => rule.message

/-- The rule of use that a failure breaks, if it is not a limit that may be met. -/
def Failure.rule? : Failure → Option Misuse
  | .misuse rule => some rule
  | _ => none

end Fanout
