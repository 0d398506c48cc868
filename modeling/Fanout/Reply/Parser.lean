import Fanout.Decimal
import Fanout.Reply.Basic
import Fanout.Text.Hex

/-!
The reply parser. It reads one byte at a time and remembers where it stopped, so the input may be
cut anywhere. `feed` is the meaning of one byte; `run` gives the same answers and skips the inside
of a line or of a bulk value in one go. A byte that does not fit is consumed and reported, and the
parser stays in the phase it was in.
-/

set_option autoImplicit false

namespace Fanout

inductive Header where
  | bulk
  | multibulk
  deriving DecidableEq, Repr

namespace Header

def largestBulk : Nat := 512 * 1024 * 1024

def largestMultibulk : Nat := 1024 * 1024

def largest : Header → Nat
  | .bulk => largestBulk
  | .multibulk => largestMultibulk

end Header

inductive Phase where
  | start
  | line (kind : LineKind)
  | lineLf (kind : LineKind)
  | integerSign
  | integerFirstDigit
  | integerDigits
  | lengthStart (header : Header)
  | lengthDigits (header : Header)
  | lengthLf (header : Header)
  | lengthNil (header : Header)
  | lengthNilCr (header : Header)
  | lengthNilLf (header : Header)
  | bulkBody
  | bulkCr
  | bulkLf
  deriving DecidableEq, Repr

def Phase.name : Phase → String
  | .start => "start"
  | .line _ => "line"
  | .lineLf _ => "line-lf"
  | .integerSign => "integer-sign"
  | .integerFirstDigit => "integer-first-digit"
  | .integerDigits => "integer-digits"
  | .lengthStart _ => "length-start"
  | .lengthDigits _ => "length-digits"
  | .lengthLf _ => "length-lf"
  | .lengthNil _ => "length-nil"
  | .lengthNilCr _ => "length-nil-cr"
  | .lengthNilLf _ => "length-nil-lf"
  | .bulkBody => "bulk-body"
  | .bulkCr => "bulk-cr"
  | .bulkLf => "bulk-lf"

inductive ParseError where
  | unexpectedByte (phase : Phase) (byte : UInt8) (offset : Nat)
  | lengthTooLarge (length largest : Nat)
  deriving DecidableEq, Repr

def ParseError.message : ParseError → String
  | .unexpectedByte phase byte offset =>
      let digits := Hex.lowerByte byte
      let state := phase.name
      s!"unexpected byte 0x{digits} at offset {offset} (state: {state})"
  | .lengthTooLarge length largest => s!"length prefix too large: {length} (max: {largest})"

/-- An array whose elements are still arriving. -/
structure OpenMultibulk where
  count : Nat
  elements : Array Element
  deriving DecidableEq, Repr

structure Parser where
  /-- The offset of the next byte to read. -/
  position : Nat := 0
  phase : Phase := .start
  /-- Where the value being read began. -/
  mark : Nat := 0
  /-- The length read so far, then the bytes that a bulk value still misses. -/
  length : Nat := 0
  parent : Option OpenMultibulk := none
  deriving DecidableEq, Repr

inductive Progress where
  | incomplete
  | complete (reply : Reply)
  | malformed (error : ParseError)
  deriving DecidableEq, Repr

namespace Parser

def carriageReturn : UInt8 := 13

def lineFeed : UInt8 := 10

/-- No reply is partly read. -/
def isIdle (parser : Parser) : Bool := parser.phase = .start && parser.parent.isNone

/-- The phase that a first byte leads to. Inside an array only bulk values may start. -/
def leadPhase (nested : Bool) (byte : UInt8) : Option Phase :=
  if byte = 36 then some (.lengthStart .bulk)
  else if nested then none
  else if byte = 43 then some (.line .ok)
  else if byte = 45 then some (.line .error)
  else if byte = 58 then some .integerSign
  else if byte = 42 then some (.lengthStart .multibulk)
  else none

def accumulate (header : Header) (length : Nat) (byte : UInt8) : Except ParseError Nat :=
  let extended := length * 10 + Decimal.digitValue byte
  if largestWord < extended then .error (.lengthTooLarge largestWord header.largest)
  else if header.largest < extended then .error (.lengthTooLarge extended header.largest)
  else .ok extended

def finish (parser : Parser) (reply : Reply) : Parser × Progress :=
  ({ parser with phase := .start }, .complete reply)

/-- An element was read: it is a reply of its own, or it joins the open array, which is the reply
once its last element is there. -/
def finishElement (parser : Parser) (element : Element) : Parser × Progress :=
  match parser with
  | { parent := none, .. } => parser.finish (.single element)
  | { parent := some ⟨count, elements⟩, position, mark, length, .. } =>
      let closed : Parser := { position := position, mark := mark, length := length }
      let elements := elements.push element
      if elements.size = count then closed.finish (.multibulk count elements)
      else ({ closed with parent := some ⟨count, elements⟩ }, .incomplete)

def finishLength (parser : Parser) : Header → Parser × Progress
  | .bulk =>
      ({ parser with
          mark := parser.position
          phase := if parser.length = 0 then .bulkCr else .bulkBody }, .incomplete)
  | .multibulk =>
      if parser.length = 0 then parser.finish (.multibulk 0 #[])
      else ({ parser with phase := .start, parent := some ⟨parser.length, #[]⟩ }, .incomplete)

def reject (parser : Parser) (byte : UInt8) (offset : Nat) : Parser × Progress :=
  (parser, .malformed (.unexpectedByte parser.phase byte offset))

def enter (parser : Parser) (phase : Phase) : Parser × Progress :=
  ({ parser with phase := phase }, .incomplete)

def feedLengthDigit (parser : Parser) (header : Header) (byte : UInt8) : Parser × Progress :=
  match accumulate header parser.length byte with
  | .ok length => { parser with length := length }.enter (.lengthDigits header)
  | .error error => (parser, .malformed error)

def feed (before : Parser) (byte : UInt8) : Parser × Progress :=
  let offset := before.position
  let parser := { before with position := offset + 1 }
  match parser.phase with
  | .start =>
      let marked := { parser with mark := offset + 1, length := 0 }
      match leadPhase parser.parent.isSome byte with
      | some phase => marked.enter phase
      | none => marked.reject byte offset
  | .line kind =>
      if byte = carriageReturn then parser.enter (.lineLf kind) else parser.enter (.line kind)
  | .lineLf kind =>
      if byte = lineFeed then
        parser.finish (.line kind parser.mark (offset - 1 - parser.mark))
      else parser.reject byte offset
  | .integerSign =>
      if byte = 45 then parser.enter .integerFirstDigit
      else if Decimal.isDigit byte then parser.enter .integerDigits
      else parser.reject byte offset
  | .integerFirstDigit =>
      if Decimal.isDigit byte then parser.enter .integerDigits else parser.reject byte offset
  | .integerDigits =>
      if Decimal.isDigit byte then parser.enter .integerDigits
      else if byte = carriageReturn then parser.enter (.lineLf .integer)
      else parser.reject byte offset
  | .lengthStart header =>
      if byte = 45 then parser.enter (.lengthNil header)
      else if Decimal.isDigit byte then parser.feedLengthDigit header byte
      else parser.reject byte offset
  | .lengthDigits header =>
      if Decimal.isDigit byte then parser.feedLengthDigit header byte
      else if byte = carriageReturn then parser.enter (.lengthLf header)
      else parser.reject byte offset
  | .lengthLf header =>
      if byte = lineFeed then parser.finishLength header else parser.reject byte offset
  | .lengthNil header =>
      if byte = 49 then parser.enter (.lengthNilCr header) else parser.reject byte offset
  | .lengthNilCr header =>
      if byte = carriageReturn then parser.enter (.lengthNilLf header)
      else parser.reject byte offset
  | .lengthNilLf .bulk =>
      if byte = lineFeed then parser.finishElement .nil else parser.reject byte offset
  | .lengthNilLf .multibulk =>
      if byte = lineFeed then parser.finish .multibulkNil else parser.reject byte offset
  | .bulkBody =>
      let missing := parser.length - 1
      { parser with length := missing }.enter (if missing = 0 then .bulkCr else .bulkBody)
  | .bulkCr =>
      if byte = carriageReturn then parser.enter .bulkLf else parser.reject byte offset
  | .bulkLf =>
      if byte = lineFeed then
        parser.finishElement (.bulk parser.mark (offset - 1 - parser.mark))
      else parser.reject byte offset

/-- The offset of the next carriage return, or the end of the data. -/
def lineEnd (data : ByteArray) (offset : Nat) : Nat :=
  if inside : offset < data.size then
    if data[offset] = carriageReturn then offset else lineEnd data (offset + 1)
  else offset
termination_by data.size - offset

/-- Passes over bytes that cannot change the phase: the text of a line, the body of a bulk. -/
def skim (parser : Parser) (data : ByteArray) : Parser :=
  match parser.phase with
  | .line _ => { parser with position := lineEnd data parser.position }
  | .bulkBody =>
      let taken := min parser.length (data.size - parser.position)
      let missing := parser.length - taken
      { parser with
        position := parser.position + taken
        length := missing
        phase := if missing = 0 then .bulkCr else .bulkBody }
  | _ => parser

theorem le_lineEnd (data : ByteArray) (offset : Nat) : offset ≤ lineEnd data offset := by
  fun_induction lineEnd data offset with
  | case1 => exact Nat.le_refl _
  | case2 offset inside other ih => omega
  | case3 => exact Nat.le_refl _

theorem position_le_skim (parser : Parser) (data : ByteArray) :
    parser.position ≤ (parser.skim data).position := by
  unfold skim
  split
  · exact le_lineEnd data parser.position
  · exact Nat.le_add_right _ _
  · exact Nat.le_refl _

theorem position_finishElement (parser : Parser) (element : Element) :
    (parser.finishElement element).1.position = parser.position := by
  unfold finishElement finish
  split
  · rfl
  · dsimp only
    split <;> rfl

/-- Every byte moves the parser on by one, whatever comes of it. -/
theorem position_feed (parser : Parser) (byte : UInt8) :
    (parser.feed byte).1.position = parser.position + 1 := by
  unfold feed feedLengthDigit finishLength finish enter reject
  dsimp only
  repeat' split
  all_goals first | rfl | exact position_finishElement _ _

/-- Reads on until a reply is complete, a byte does not fit or the data ends. -/
def run (parser : Parser) (data : ByteArray) : Parser × Progress :=
  let skimmed := parser.skim data
  if inside : skimmed.position < data.size then
    match step : skimmed.feed data[skimmed.position] with
    | (next, .incomplete) => run next data
    | (next, outcome) => (next, outcome)
  else (skimmed, .incomplete)
termination_by data.size - parser.position
decreasing_by
  have skims : parser.position ≤ skimmed.position := position_le_skim parser data
  have steps : next.position = skimmed.position + 1 := by
    have moved := position_feed skimmed data[skimmed.position]
    rw [step] at moved
    exact moved
  omega

/-- Reads on in data of which everything before the position was read already. -/
def execute (parser : Parser) (data : ByteArray) : Except Misuse (Parser × Progress) :=
  if parser.position ≤ data.size then .ok (parser.run data)
  else .error (.parserBeyondInput parser.position data.size)

end Parser

end Fanout
