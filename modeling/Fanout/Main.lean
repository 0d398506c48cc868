import Fanout.CommandLine.Probe
import Fanout.Network

/-!
The command line program. It runs on a network without a route, so every server it is asked to
reach is reported as unreachable.
-/

set_option autoImplicit false

def main (words : List String) : IO UInt32 := do
  let result := (Fanout.CommandLine.run Fanout.Network.transport words
    { hasRoute := false }).1
  IO.print result.stdout
  IO.eprint result.stderr
  return result.exitCode
