import Fanout.Buffer.Basic
import Fanout.Text.Hex

/-!
What a buffer looks like in print: a one-line summary, and a dump of its first bytes in rows of
sixteen, first as hexadecimal and then as text.
-/

set_option autoImplicit false

namespace Fanout.Buffer

/-- Printable bytes stand for themselves, all others are a dot. -/
def glyph (byte : UInt8) : Char :=
  if 0x20 ≤ byte ∧ byte ≤ 0x7E then Char.ofNat byte.toNat else '.'

def dumpRow (row : List UInt8) : String :=
  String.join (row.map fun byte => Hex.upperByte byte ++ " ") ++
    String.join (List.replicate (16 - row.length) "   ") ++
    String.ofList (row.map glyph) ++ "\n"

/-- A dump of the first `count` bytes of the region. -/
def dump (buffer : Buffer) (count : Nat) : String :=
  let stop := min count buffer.capacity
  let rows := (List.range ((stop + 15) / 16)).map fun index =>
    dumpRow (buffer.data.extract (16 * index) (min (16 * index + 16) stop)).data.toList
  let capacity := buffer.capacity
  let limit := buffer.limit
  let position := buffer.position
  s!"buffer cap: {capacity}, limit: {limit}, pos: {position}\n" ++ String.join rows

def summary (buffer : Buffer) : String :=
  let position := buffer.position
  let limit := buffer.limit
  let capacity := buffer.capacity
  let initialCapacity := buffer.initialCapacity
  s!"Buffer \x7b position: {position}, limit: {limit}, capacity: {capacity}, " ++
    s!"initial_capacity: {initialCapacity} \x7d"

end Fanout.Buffer
