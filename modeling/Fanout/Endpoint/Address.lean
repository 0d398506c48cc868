import Fanout.Text.Hex

/-!
Internet addresses as literals. An address of four octets is written in decimal; one of eight
groups in hexadecimal, where one run of zero groups may be left out and the last two groups may
be written as four octets.
-/

set_option autoImplicit false

namespace Fanout

inductive Address where
  | v4 (first second third fourth : Nat)
  /-- Eight groups of sixteen bits. -/
  | v6 (groups : List Nat)
  deriving DecidableEq, Repr

namespace Address

def digitValue? (radix : Nat) (char : Char) : Option Nat :=
  let code := char.toNat
  let value? : Option Nat :=
    if 48 ≤ code ∧ code ≤ 57 then some (code - 48)
    else if 97 ≤ code ∧ code ≤ 102 then some (code - 87)
    else if 65 ≤ code ∧ code ≤ 70 then some (code - 55)
    else none
  value?.filter (· < radix)

/-- Reads all digits that follow: between one and `width` of them, with a value at most
`largest`. -/
def readNumber (radix width largest : Nat) (leadingZero : Bool) (text : List Char) :
    Option (Nat × List Char) :=
  let isDigit (char : Char) : Bool := (digitValue? radix char).isSome
  let digits := text.takeWhile isDigit
  if digits.isEmpty || width < digits.length then none
  else if !leadingZero && 1 < digits.length && digits.head? = some '0' then none
  else
    let value := digits.foldl
      (fun value char => value * radix + (digitValue? radix char).getD 0) 0
    if largest < value then none else some (value, text.dropWhile isDigit)

def readOctet (text : List Char) : Option (Nat × List Char) := readNumber 10 3 255 false text

def readGroup (text : List Char) : Option (Nat × List Char) := readNumber 16 4 0xFFFF true text

def skip (separator : Char) : List Char → Option (List Char)
  | char :: text => if char = separator then some text else none
  | [] => none

def readOctets (text : List Char) : Option (Address × List Char) := do
  let (first, text) ← readOctet text
  let (second, text) ← readOctet (← skip '.' text)
  let (third, text) ← readOctet (← skip '.' text)
  let (fourth, text) ← readOctet (← skip '.' text)
  return (.v4 first second third fourth, text)

/-- The groups that could be read, whether the last two came as octets, and the rest. -/
structure Groups where
  groups : List Nat
  endsInOctets : Bool
  rest : List Char

/-- Reads up to `room` groups between colons. Octets fill two groups and end the run. -/
def readGroups : Nat → Bool → List Char → Groups
  | 0, _, text => ⟨[], false, text⟩
  | room + 1, isFirst, text =>
      let content := if isFirst then some text else skip ':' text
      let octets := if room = 0 then none else content.bind readOctets
      match octets with
      | some (.v4 first second third fourth, rest) =>
          ⟨[first * 256 + second, third * 256 + fourth], true, rest⟩
      | _ =>
          match content.bind readGroup with
          | some (group, rest) =>
              let others := readGroups room false rest
              { others with groups := group :: others.groups }
          | none => ⟨[], false, text⟩

def readV4 (text : List Char) : Option Address :=
  match readOctets text with
  | some (address, []) => some address
  | _ => none

def readV6 (text : List Char) : Option Address :=
  let front := readGroups 8 true text
  let found := front.groups.length
  if found = 8 then
    if front.rest.isEmpty then some (.v6 front.groups) else none
  else if front.endsInOctets then none
  else
    match (skip ':' front.rest).bind (skip ':') with
    | none => none
    | some text =>
        let back := readGroups (7 - found) true text
        if back.rest.isEmpty then
          some (.v6 (front.groups ++ List.replicate (8 - found - back.groups.length) 0 ++
            back.groups))
        else none

def read (text : String) : Option Address :=
  (readV4 text.toList).orElse fun _ => readV6 text.toList

/-- The length of the run of zero groups at the beginning. -/
def zerosAtHead (groups : List Nat) : Nat := (groups.takeWhile (· = 0)).length

/-- Where the first of the longest runs of zero groups begins, and its length. -/
def longestZeros : List Nat → Nat × Nat
  | [] => (0, 0)
  | group :: groups =>
      let here := zerosAtHead (group :: groups)
      let (start, length) := longestZeros groups
      if length ≤ here then (0, here) else (start + 1, length)

def renderGroups (groups : List Nat) : String :=
  ":".intercalate (groups.map fun group => String.ofList (Hex.lowerDigits group))

def renderOctets (first second third fourth : Nat) : String :=
  s!"{first}.{second}.{third}.{fourth}"

/-- The shortest usual spelling. The longest run of at least two zero groups is left out, and an
address that stands for four octets shows them. -/
def render : Address → String
  | .v4 first second third fourth => renderOctets first second third fourth
  | .v6 [0, 0, 0, 0, 0, 0xFFFF, high, low] =>
      "::ffff:" ++ renderOctets (high / 256) (high % 256) (low / 256) (low % 256)
  | .v6 groups =>
      let (start, length) := longestZeros groups
      if 1 < length then
        renderGroups (groups.take start) ++ "::" ++ renderGroups (groups.drop (start + length))
      else renderGroups groups

def renderWithPort (address : Address) (port : UInt16) : String :=
  let host := address.render
  let number := port.toNat
  match address with
  | .v4 _ _ _ _ => s!"{host}:{number}"
  | .v6 _ => s!"[{host}]:{number}"

end Address

end Fanout
