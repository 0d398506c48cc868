import Fanout.Reply.Parser

/-!
The grammar of a reply stream, as a relation between the bytes, where they begin and the reply
that they stand for. It says nothing about how a reply is found. A stream is any sequence of
replies; the elements of an array are bulk values or nil, never arrays.
-/

set_option autoImplicit false

namespace Fanout.Grammar

def crlf : List UInt8 := [13, 10]

structure Numeral (digits : List UInt8) (value : Nat) : Prop where
  present : digits ≠ []
  decimal : ∀ byte ∈ digits, Decimal.isDigit byte = true
  value : Decimal.valueFrom 0 digits = value

def lineLead : LineKind → UInt8
  | .ok => 43
  | .error => 45
  | .integer => 58

def headerLead : Header → UInt8
  | .bulk => 36
  | .multibulk => 42

def LineText : LineKind → List UInt8 → Prop
  | .integer, text =>
      ∃ sign digits value, (sign = [] ∨ sign = [45]) ∧ Numeral digits value ∧ text = sign ++ digits
  | _, text => 13 ∉ text

def lengthLine (header : Header) (digits : List UInt8) : List UInt8 :=
  headerLead header :: digits ++ crlf

def nilLine (header : Header) : List UInt8 := [headerLead header, 45, 49] ++ crlf

inductive IsElement (offset : Nat) : List UInt8 → Element → Prop where
  | nil : IsElement offset (nilLine .bulk) .nil
  | bulk {digits body : List UInt8} (length : Numeral digits body.length)
      (bounded : body.length ≤ Header.bulk.largest) :
      IsElement offset (lengthLine .bulk digits ++ body ++ crlf)
        (.bulk (offset + (lengthLine .bulk digits).length) body.length)

inductive AreElements : Nat → List UInt8 → List Element → Prop where
  | nil (offset : Nat) : AreElements offset [] []
  | cons {offset : Nat} {first rest : List UInt8} {element : Element} {elements : List Element}
      (head : IsElement offset first element)
      (tail : AreElements (offset + first.length) rest elements) :
      AreElements offset (first ++ rest) (element :: elements)

inductive IsReply (offset : Nat) : List UInt8 → Reply → Prop where
  | line {kind : LineKind} {text : List UInt8} (allowed : LineText kind text) :
      IsReply offset (lineLead kind :: text ++ crlf) (.line kind (offset + 1) text.length)
  | single {bytes : List UInt8} {element : Element} (only : IsElement offset bytes element) :
      IsReply offset bytes (.single element)
  | multibulkNil : IsReply offset (nilLine .multibulk) .multibulkNil
  | multibulk {digits content : List UInt8} {elements : Array Element}
      (count : Numeral digits elements.size) (bounded : elements.size ≤ Header.multibulk.largest)
      (children : AreElements (offset + (lengthLine .multibulk digits).length) content
        elements.toList) :
      IsReply offset (lengthLine .multibulk digits ++ content) (.multibulk elements.size elements)

inductive IsStream : Nat → List UInt8 → List Reply → Prop where
  | nil (offset : Nat) : IsStream offset [] []
  | cons {offset : Nat} {first rest : List UInt8} {reply : Reply} {replies : List Reply}
      (head : IsReply offset first reply)
      (tail : IsStream (offset + first.length) rest replies) :
      IsStream offset (first ++ rest) (reply :: replies)

/-- Something can follow that makes it a stream. -/
def Viable (bytes : List UInt8) : Prop := ∃ rest replies, IsStream 0 (bytes ++ rest) replies

structure LongestViable (bytes front : List UInt8) : Prop where
  begins : front <+: bytes
  viable : Viable front
  longest : ∀ other, other <+: bytes → Viable other → other.length ≤ front.length

/-- The whole replies at the front of the bytes: behind them no other whole reply stands. -/
def Front (bytes : List UInt8) (replies : List Reply) : Prop :=
  ∃ whole part, bytes = whole ++ part ∧ IsStream 0 whole replies ∧
    ∀ first reply, IsReply whole.length first reply → ¬first <+: part

/-! ### Joining and splitting -/

theorem AreElements.append {offset : Nat} {left right : List UInt8}
    {first second : List Element} (before : AreElements offset left first)
    (after : AreElements (offset + left.length) right second) :
    AreElements offset (left ++ right) (first ++ second) := by
  induction before with
  | nil offset => exact after
  | cons head tail ih =>
      rw [List.append_assoc]
      refine .cons head (ih ?_)
      rwa [List.length_append, ← Nat.add_assoc] at after

theorem AreElements.snoc {offset : Nat} {left last : List UInt8} {elements : List Element}
    {element : Element} (before : AreElements offset left elements)
    (after : IsElement (offset + left.length) last element) :
    AreElements offset (left ++ last) (elements ++ [element]) := by
  have single := AreElements.cons after (.nil _)
  rw [List.append_nil] at single
  exact before.append single

theorem IsStream.append {offset : Nat} {left right : List UInt8} {first second : List Reply}
    (before : IsStream offset left first)
    (after : IsStream (offset + left.length) right second) :
    IsStream offset (left ++ right) (first ++ second) := by
  induction before with
  | nil offset => exact after
  | cons head tail ih =>
      rw [List.append_assoc]
      refine .cons head (ih ?_)
      rwa [List.length_append, ← Nat.add_assoc] at after

theorem IsStream.split {offset : Nat} {bytes : List UInt8} {first second : List Reply}
    (stream : IsStream offset bytes (first ++ second)) :
    ∃ left right, bytes = left ++ right ∧ IsStream offset left first := by
  induction first generalizing offset bytes with
  | nil => exact ⟨[], bytes, rfl, .nil offset⟩
  | cons reply first ih =>
      cases stream with
      | cons head tail =>
          obtain ⟨left, right, rfl, stream⟩ := ih tail
          exact ⟨_ ++ left, right, (List.append_assoc _ _ _).symm, .cons head stream⟩

end Fanout.Grammar
