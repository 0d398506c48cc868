import Fanout.Buffer.Basic

/-!
The settings of an engine.
-/

set_option autoImplicit false

namespace Fanout

/-- The port of an address that names none. -/
def defaultPort : UInt16 := 6379

def version : String := "0.1.0"

structure Config where
  readBufferSize : Nat := 12 * 1024
  writeBufferSize : Nat := 4 * 1024
  maxBufferSize : Nat := Buffer.defaultCeiling
  maxPairs : Nat := 1024
  /-- Error texts are cut to this many bytes. -/
  maxErrorLength : Nat := 255
  defaultPort : UInt16 := Fanout.defaultPort
  batchPoolSize : Nat := 64
  deriving DecidableEq, Repr

end Fanout
