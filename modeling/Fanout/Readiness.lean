/-!
Sets of events that a connection can be told of.
-/

set_option autoImplicit false

namespace Fanout

structure Readiness where
  read : Bool := false
  write : Bool := false
  timeout : Bool := false
  error : Bool := false
  deriving DecidableEq, Repr

namespace Readiness

def empty : Readiness := {}

def reading : Readiness := { read := true }

def writing : Readiness := { write := true }

def timedOut : Readiness := { timeout := true }

def failing : Readiness := { error := true }

/-- The directions that a socket can be watched for. -/
def io : Readiness := { read := true, write := true }

def union (left right : Readiness) : Readiness :=
  { read := left.read || right.read
    write := left.write || right.write
    timeout := left.timeout || right.timeout
    error := left.error || right.error }

def inter (left right : Readiness) : Readiness :=
  { read := left.read && right.read
    write := left.write && right.write
    timeout := left.timeout && right.timeout
    error := left.error && right.error }

/-- The events of the first set that are not in the second. -/
def without (left right : Readiness) : Readiness :=
  { read := left.read && !right.read
    write := left.write && !right.write
    timeout := left.timeout && !right.timeout
    error := left.error && !right.error }

def isEmpty (events : Readiness) : Bool := events = empty

/-- Whether all events of a set that is not empty are there. -/
def contains (events wanted : Readiness) : Bool :=
  wanted.without events = empty && wanted ≠ empty

def count (events : Readiness) : Nat :=
  events.read.toNat + events.write.toNat + events.timeout.toNat + events.error.toNat

def render (events : Readiness) : String :=
  let named := [(events.read, "READ"), (events.write, "WRITE"), (events.timeout, "TIMEOUT"),
    (events.error, "ERROR")]
  let present := (named.filter fun pair => pair.1).map fun pair => pair.2
  if present.isEmpty then "EMPTY" else "|".intercalate present

end Readiness

end Fanout
