/-!
Reading bytes as UTF-8 text when they may not be well formed. Every longest beginning of a
character that is not continued becomes one replacement character.
-/

set_option autoImplicit false

namespace Fanout.Text

def replacement : Char := Char.ofNat 0xFFFD

/-- A character of which some bytes are still to come. -/
structure PartialChar where
  missing : Nat
  /-- The next byte must lie between these two. -/
  low : UInt8
  high : UInt8
  bits : Nat

inductive LeadByte where
  | whole (char : Char)
  | first (started : PartialChar)
  | invalid

def leadByte (byte : UInt8) : LeadByte :=
  let code := byte.toNat
  if code < 0x80 then .whole (Char.ofNat code)
  else if code < 0xC2 then .invalid
  else if code < 0xE0 then .first ⟨1, 0x80, 0xBF, code - 0xC0⟩
  else if code = 0xE0 then .first ⟨2, 0xA0, 0xBF, 0⟩
  else if code = 0xED then .first ⟨2, 0x80, 0x9F, 0xD⟩
  else if code < 0xF0 then .first ⟨2, 0x80, 0xBF, code - 0xE0⟩
  else if code = 0xF0 then .first ⟨3, 0x90, 0xBF, 0⟩
  else if code < 0xF4 then .first ⟨3, 0x80, 0xBF, code - 0xF0⟩
  else if code = 0xF4 then .first ⟨3, 0x80, 0x8F, 4⟩
  else .invalid

/-- Reads on, with the character whose bytes are being collected. -/
def decodeFrom : Option PartialChar → List UInt8 → List Char
  | none, [] => []
  | some _, [] => [replacement]
  | collected, byte :: others =>
      let afresh : List Char := match leadByte byte with
        | .whole char => char :: decodeFrom none others
        | .first started => decodeFrom (some started) others
        | .invalid => replacement :: decodeFrom none others
      match collected with
      | none => afresh
      | some started =>
          if started.low ≤ byte ∧ byte ≤ started.high then
            let bits := started.bits * 64 + (byte.toNat - 0x80)
            if started.missing = 1 then Char.ofNat bits :: decodeFrom none others
            else decodeFrom (some ⟨started.missing - 1, 0x80, 0xBF, bits⟩) others
          else replacement :: afresh

def decodeLossy (bytes : ByteArray) : String :=
  String.ofList (decodeFrom none bytes.data.toList)

end Fanout.Text
