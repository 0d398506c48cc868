import Fanout.Buffer.Transfer
import Fanout.Endpoint.Basic
import Fanout.Interests

/-!
What the rest of the library asks of a network. A transport has a state of its own for what its
sockets share and one state for each socket, so it may answer in any way that depends on what
happened before. Only two things are asked of it: nothing here waits except the poller, and a
socket does not go on being interrupted for ever.
-/

set_option autoImplicit false

namespace Fanout

inductive Dialing (Sock : Type) where
  | unresolved
  | refused (error : IoError)
  | opened (socket : Sock)

inductive Handshake where
  | established
  | inProgress
  | failed (error : IoError)
  deriving DecidableEq, Repr

/-- A span of time. -/
structure Duration where
  nanos : Nat
  deriving DecidableEq, Repr

namespace Duration

def ofMillis (millis : Nat) : Duration := ⟨millis * 1000000⟩

def ofSeconds (seconds : Nat) : Duration := ⟨seconds * 1000000000⟩

/-- A bare number counts milliseconds, as on the command line. -/
instance : Coe Nat Duration := ⟨ofMillis⟩

instance (millis : Nat) : OfNat Duration millis := ⟨ofMillis millis⟩

end Duration

/-- The last instant that the clock can tell: its seconds are a signed word. -/
def latestInstant : Nat := 0x7FFFFFFFFFFFFFFF * 1000000000 + 999999999

/-- A socket that the poller watches for a pair. -/
structure Watched (Sock : Type) where
  ordinal : Nat
  socket : Sock
  wanted : Readiness

/-- What ends a wait. -/
inductive Wake where
  | ready (events : List (Nat × Readiness))
  | interrupted
  | failed (error : IoError)
  deriving DecidableEq, Repr

structure Transport (Net Sock : Type) where
  /-- What the clock shows, in nanoseconds. -/
  clock : Net → Nat := fun _ => 0
  /-- Makes the poller of a round. -/
  poller : Net → Except IoError Unit := fun _ => .ok ()
  dial : Net → Endpoint → Dialing Sock × Net
  shake : Sock → Handshake × Sock
  send : Sock → ByteArray → SendAnswer × Sock
  /-- Asks for bytes, with the room that there is for them. -/
  receive : Sock → Nat → ReceiveAnswer × Sock
  /-- Tells the poller what to watch a socket for. -/
  watch : Poller Sock
  /-- Takes a socket that the poller knows out of its hands. -/
  deregister : Net → Sock → Option IoError × Net
  hangUp : Net → Sock → Net
  /-- Waits for events, at most the given number of nanoseconds. The number it returns is the time
  that passed beyond the first nanosecond. -/
  poll : Net → List (Watched Sock) → Nat → Wake × Nat × Net
  /-- How often a socket can still be interrupted before it gives another answer. -/
  patience : Sock → Nat
  send_interrupted : ∀ socket bytes later,
    send socket bytes = (.fails .interrupted, later) → patience later < patience socket
  receive_interrupted : ∀ socket room later,
    receive socket room = (.fails .interrupted, later) → patience later < patience socket

end Fanout
