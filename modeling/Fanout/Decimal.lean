/-!
Decimal numerals as bytes. A number is written with the fewest digits; a numeral is read with any
number of leading zeros, an optional sign, and a bound on the value.
-/

set_option autoImplicit false

namespace Fanout.Decimal

def digit (value : Nat) : UInt8 := UInt8.ofNat (48 + value)

def isDigit (byte : UInt8) : Bool := 48 ≤ byte && byte ≤ 57

def digitValue (byte : UInt8) : Nat := byte.toNat - 48

/-- The decimal digits of a number, without leading zeros. -/
def numeral (value : Nat) : List UInt8 :=
  if value < 10 then [digit value] else numeral (value / 10) ++ [digit (value % 10)]

def width (value : Nat) : Nat :=
  if value < 10 then 1 else width (value / 10) + 1

def signedNumeral (value : Int) : List UInt8 :=
  if value < 0 then 45 :: numeral value.natAbs else numeral value.natAbs

/-- The value of a digit string that follows a prefix of value `accumulated`. -/
def valueFrom (accumulated : Nat) (digits : List UInt8) : Nat :=
  digits.foldl (fun value byte => value * 10 + digitValue byte) accumulated

def readDigits (text : List UInt8) : Option Nat :=
  if !text.isEmpty && text.all isDigit then some (valueFrom 0 text) else none

/-- A number at most `largest`; a plus sign may stand in front. -/
def readNatural (largest : Nat) (text : List UInt8) : Option Nat :=
  let digits := match text with
    | 43 :: digits => digits
    | _ => text
  (readDigits digits).filter (· ≤ largest)

def smallestInteger : Int := -0x8000000000000000

def largestInteger : Int := 0x7FFFFFFFFFFFFFFF

def readInteger (text : List UInt8) : Option Int :=
  let value? := match text with
    | 43 :: digits => (readDigits digits).map fun value => (value : Int)
    | 45 :: digits => (readDigits digits).map fun value => -(value : Int)
    | _ => (readDigits text).map fun value => (value : Int)
  value?.filter fun value => smallestInteger ≤ value && value ≤ largestInteger

end Fanout.Decimal
