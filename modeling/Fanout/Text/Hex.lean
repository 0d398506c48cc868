/-!
Hexadecimal digits.
-/

set_option autoImplicit false

namespace Fanout.Hex

def lowerDigit (value : Nat) : Char :=
  if value < 10 then Char.ofNat (48 + value) else Char.ofNat (87 + value)

def upperDigit (value : Nat) : Char :=
  if value < 10 then Char.ofNat (48 + value) else Char.ofNat (55 + value)

def lowerByte (byte : UInt8) : String :=
  String.ofList [lowerDigit (byte.toNat / 16), lowerDigit (byte.toNat % 16)]

def upperByte (byte : UInt8) : String :=
  String.ofList [upperDigit (byte.toNat / 16), upperDigit (byte.toNat % 16)]

/-- The digits of a number, without leading zeros. -/
def lowerDigits (value : Nat) : List Char :=
  if value < 16 then [lowerDigit value]
  else lowerDigits (value / 16) ++ [lowerDigit (value % 16)]

end Fanout.Hex
