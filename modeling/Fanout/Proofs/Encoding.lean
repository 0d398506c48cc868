import Mathlib
import Fanout.Proofs.Recognition
import Fanout.Proofs.Writing

/-!
The encoding of commands. It is a stream of arrays of bulk values, so the reply parser reads a
batch of commands back to its arguments, whatever their bytes are; and no encoding is the beginning
of another one, so the commands in a stream of bytes are known before the stream ends.
-/

set_option autoImplicit false

namespace Fanout

/-! ### Numerals -/

namespace Decimal

theorem digit_reads : ∀ value < 10,
    isDigit (digit value) = true ∧ digitValue (digit value) = value := by
  decide

theorem isDigit_numeral (value : Nat) : ∀ byte ∈ numeral value, isDigit byte = true := by
  fun_induction numeral value with
  | case1 value small =>
      intro byte member
      rw [List.mem_singleton.mp member]
      exact (digit_reads value small).1
  | case2 value large ih =>
      intro byte member
      rcases List.mem_append.mp member with earlier | last
      · exact ih byte earlier
      · rw [List.mem_singleton.mp last]
        exact (digit_reads _ (Nat.mod_lt value (by decide))).1

theorem valueFrom_numeral (value : Nat) : valueFrom 0 (numeral value) = value := by
  fun_induction numeral value with
  | case1 value small =>
      rw [valueFrom_cons, Nat.zero_mul, Nat.zero_add, (digit_reads value small).2]
      rfl
  | case2 value large ih =>
      rw [valueFrom_append, ih, valueFrom_cons,
        (digit_reads _ (Nat.mod_lt value (by decide))).2]
      exact Nat.div_add_mod' value 10

theorem numeral_ne_nil (value : Nat) : numeral value ≠ [] := by
  unfold numeral
  split
  · exact List.cons_ne_nil _ _
  · exact List.append_ne_nil_of_right_ne_nil _ (List.cons_ne_nil _ _)

theorem readDigits_of_decimal {digits : List UInt8} (present : digits ≠ [])
    (decimal : ∀ byte ∈ digits, isDigit byte = true) :
    readDigits digits = some (valueFrom 0 digits) := by
  have filled : digits.isEmpty = false := by simpa using present
  unfold readDigits
  rw [filled, List.all_eq_true.mpr decimal]
  rfl

/-- Digits end where the first other byte stands. -/
theorem digits_cut {first second left right : List UInt8}
    (decimal : ∀ byte ∈ first, isDigit byte = true)
    (decimal' : ∀ byte ∈ second, isDigit byte = true)
    (same : first ++ 13 :: left = second ++ 13 :: right) : first = second ∧ left = right := by
  induction first generalizing second with
  | nil =>
      cases second with
      | nil => exact ⟨rfl, List.tail_eq_of_cons_eq same⟩
      | cons byte second =>
          obtain rfl := List.head_eq_of_cons_eq same
          cases decimal' _ List.mem_cons_self
  | cons byte first ih =>
      cases second with
      | nil =>
          obtain rfl := List.head_eq_of_cons_eq same
          cases decimal _ List.mem_cons_self
      | cons other second =>
          obtain rfl := List.head_eq_of_cons_eq same
          obtain ⟨rfl, rest⟩ := ih
            (fun byte member => decimal byte (List.mem_cons_of_mem _ member))
            (fun byte member => decimal' byte (List.mem_cons_of_mem _ member))
            (List.tail_eq_of_cons_eq same)
          exact ⟨rfl, rest⟩

end Decimal

theorem Grammar.numeral_numeral (value : Nat) : Numeral (Decimal.numeral value) value :=
  ⟨Decimal.numeral_ne_nil value, Decimal.isDigit_numeral value, Decimal.valueFrom_numeral value⟩

/-! ### Encodings as bytes -/

/-- Pieces that are put one behind the other. -/
theorem toList_foldl_append {α : Type} (piece : α → ByteArray) (items : List α)
    (front : ByteArray) :
    (items.foldl (fun bytes item => bytes ++ piece item) front).data.toList =
      front.data.toList ++ items.flatMap fun item => (piece item).data.toList := by
  induction items generalizing front with
  | nil => exact (List.append_nil _).symm
  | cons item items ih =>
      rw [List.foldl_cons, ih, ByteArray.data_append, Array.toList_append, List.flatMap_cons,
        List.append_assoc]

namespace Command

open Grammar

theorem toList_header (header : Header) (number : Nat) :
    (Command.header (headerLead header) number).data.toList =
      lengthLine header (Decimal.numeral number) := by
  rw [Command.header, ByteArray.data_append, Array.toList_append, List.data_toByteArray,
    List.toList_toArray]
  rfl

theorem toList_encodeArgument (argument : ByteArray) :
    (encodeArgument argument).data.toList =
      lengthLine .bulk (Decimal.numeral argument.size) ++ argument.data.toList ++ Grammar.crlf := by
  have line := toList_header .bulk argument.size
  rw [encodeArgument, ByteArray.data_append, ByteArray.data_append, Array.toList_append,
    Array.toList_append]
  exact congrArg (· ++ argument.data.toList ++ Grammar.crlf) line

def argumentBytes (arguments : List ByteArray) : List UInt8 :=
  arguments.flatMap fun argument => (encodeArgument argument).data.toList

theorem toList_appendArguments (bytes : ByteArray) (arguments : List ByteArray) :
    (appendArguments bytes arguments).data.toList =
      bytes.data.toList ++ argumentBytes arguments :=
  toList_foldl_append encodeArgument arguments bytes

theorem toList_encode (arguments : List ByteArray) :
    (encode arguments).data.toList =
      lengthLine .multibulk (Decimal.numeral arguments.length) ++ argumentBytes arguments := by
  have bytes := toList_appendArguments (countHeader arguments) arguments
  have line := toList_header .multibulk arguments.length
  unfold countHeader at bytes
  rw [show (42 : UInt8) = headerLead .multibulk from rfl, line] at bytes
  exact bytes

def bytes (commands : List (List ByteArray)) : List UInt8 :=
  commands.flatMap fun arguments => (encode arguments).data.toList

theorem toList_encodeAll (commands : List (List ByteArray)) :
    (encodeAll commands).data.toList = bytes commands :=
  toList_foldl_append encode commands .empty

/-! ### No encoding begins another one -/

theorem header_cut {header : Header} {first second : Nat} {left right : List UInt8}
    (same : lengthLine header (Decimal.numeral first) ++ left =
      lengthLine header (Decimal.numeral second) ++ right) : first = second ∧ left = right := by
  simp only [lengthLine, Grammar.crlf, List.cons_append, List.append_assoc, List.nil_append] at same
  obtain ⟨digits, rest⟩ := Decimal.digits_cut (Decimal.isDigit_numeral first)
    (Decimal.isDigit_numeral second) (List.tail_eq_of_cons_eq same)
  have values := congrArg (Decimal.valueFrom 0) digits
  rw [Decimal.valueFrom_numeral, Decimal.valueFrom_numeral] at values
  exact ⟨values, List.tail_eq_of_cons_eq rest⟩

theorem argument_cut {first second : ByteArray} {left right : List UInt8}
    (same : (encodeArgument first).data.toList ++ left =
      (encodeArgument second).data.toList ++ right) : first = second ∧ left = right := by
  rw [toList_encodeArgument, toList_encodeArgument] at same
  simp only [List.append_assoc] at same
  obtain ⟨sizes, rest⟩ := header_cut same
  obtain ⟨bodies, ends⟩ := List.append_inj rest sizes
  exact ⟨ByteArray.ext (Array.toList_inj.mp bodies), List.append_cancel_left ends⟩

theorem arguments_cut {first second : List ByteArray} {left right : List UInt8}
    (lengths : first.length = second.length)
    (same : argumentBytes first ++ left = argumentBytes second ++ right) :
    first = second ∧ left = right := by
  unfold argumentBytes at same
  induction first generalizing second with
  | nil =>
      obtain rfl := List.eq_nil_of_length_eq_zero lengths.symm
      exact ⟨rfl, same⟩
  | cons argument first ih =>
      cases second with
      | nil => cases lengths
      | cons other second =>
          rw [List.flatMap_cons, List.flatMap_cons, List.append_assoc, List.append_assoc] at same
          obtain ⟨rfl, rest⟩ := argument_cut same
          obtain ⟨rfl, ends⟩ := ih (Nat.succ.inj lengths) rest
          exact ⟨rfl, ends⟩

theorem encode_cut {first second : List ByteArray} {left right : List UInt8}
    (same : (encode first).data.toList ++ left = (encode second).data.toList ++ right) :
    first = second ∧ left = right := by
  rw [toList_encode, toList_encode, List.append_assoc, List.append_assoc] at same
  obtain ⟨lengths, rest⟩ := header_cut same
  exact arguments_cut lengths rest

/-- Bytes that begin a stream of commands hold no other commands than the stream. -/
theorem prefix_of_bytes {few many : List (List ByteArray)} (begins : bytes few <+: bytes many) :
    few <+: many := by
  obtain ⟨rest, same⟩ := begins
  unfold bytes at same
  induction few generalizing many with
  | nil => exact List.nil_prefix
  | cons arguments few ih =>
      cases many with
      | nil =>
          rw [List.flatMap_cons, toList_encode] at same
          cases same
      | cons other many =>
          rw [List.flatMap_cons, List.flatMap_cons, List.append_assoc] at same
          obtain ⟨rfl, later⟩ := encode_cut same
          exact List.cons_prefix_cons.mpr ⟨rfl, ih later⟩

end Command

/-! ### Reading commands back -/

theorem extract_of_toList {data body : ByteArray} {front back : List UInt8}
    (whole : data.data.toList = front ++ body.data.toList ++ back) :
    data.extract front.length (front.length + body.size) = body := by
  have size : body.size = body.data.toList.length := rfl
  apply ByteArray.ext
  rw [← Array.toList_inj, ByteArray.data_extract, Array.toList_extract, whole, size,
    List.extract_eq_take_drop, Nat.add_sub_cancel_left, List.append_assoc, List.drop_left,
    List.take_left]

/-- Pieces that are replies wherever they stand make a stream, one behind the other. -/
theorem Grammar.exists_stream {α : Type} {bytes : α → List UInt8} {relation : α → Reply → Prop}
    {whole : List UInt8} {items : List α}
    (each : ∀ item ∈ items, ∀ front back, whole = front ++ bytes item ++ back →
      ∃ reply, IsReply front.length (bytes item) reply ∧ relation item reply)
    (front back : List UInt8) (joined : whole = front ++ items.flatMap bytes ++ back) :
    ∃ replies, IsStream front.length (items.flatMap bytes) replies ∧
      List.Forall₂ relation items replies := by
  induction items generalizing front with
  | nil => exact ⟨[], .nil _, .nil⟩
  | cons item items ih =>
      rw [List.flatMap_cons] at joined ⊢
      obtain ⟨replies, stream, related⟩ := ih
        (fun other member => each other (List.mem_cons_of_mem _ member)) (front ++ bytes item)
        (by rw [joined]; simp only [List.append_assoc])
      obtain ⟨reply, grammatical, own⟩ := each item List.mem_cons_self front
        (items.flatMap bytes ++ back) (by rw [joined]; simp only [List.append_assoc])
      rw [List.length_append] at stream
      exact ⟨reply :: replies, .cons grammatical stream, .cons own related⟩

def Element.Carries (data argument : ByteArray) (element : Element) : Prop :=
  ∃ offset, element = .bulk offset argument.size ∧
    data.extract offset (offset + argument.size) = argument

/-- An array whose elements stand for the arguments of a command, in order. -/
def Reply.Carries (data : ByteArray) (arguments : List ByteArray) (reply : Reply) : Prop :=
  ∃ elements : Array Element, reply = .multibulk arguments.length elements ∧
    List.Forall₂ (Element.Carries data) arguments elements.toList

namespace Command

open Grammar

variable {data : ByteArray} {back : List UInt8}

theorem isElement_argument (offset : Nat) {argument : ByteArray}
    (bounded : argument.size ≤ Header.bulk.largest) :
    IsElement offset (encodeArgument argument).data.toList
      (.bulk (offset + (lengthLine .bulk (Decimal.numeral argument.size)).length)
        argument.size) := by
  rw [toList_encodeArgument]
  exact IsElement.bulk (numeral_numeral argument.size) bounded

theorem exists_elements {arguments : List ByteArray}
    (bounded : ∀ argument ∈ arguments, argument.size ≤ Header.bulk.largest) (front : List UInt8)
    (whole : data.data.toList = front ++ argumentBytes arguments ++ back) :
    ∃ elements, AreElements front.length (argumentBytes arguments) elements ∧
      List.Forall₂ (Element.Carries data) arguments elements := by
  unfold argumentBytes at whole ⊢
  induction arguments generalizing front with
  | nil => exact ⟨[], .nil _, .nil⟩
  | cons argument others ih =>
      rw [List.flatMap_cons] at whole ⊢
      obtain ⟨elements, grammatical, carried⟩ := ih
        (fun other member => bounded other (List.mem_cons_of_mem _ member))
        (front ++ (encodeArgument argument).data.toList)
        (by rw [whole]; simp only [List.append_assoc])
      rw [List.length_append] at grammatical
      refine ⟨_, .cons (isElement_argument _ (bounded argument List.mem_cons_self)) grammatical,
        .cons ⟨_, rfl, ?_⟩ carried⟩
      have cut : data.data.toList =
          front ++ lengthLine .bulk (Decimal.numeral argument.size) ++ argument.data.toList ++
            (Grammar.crlf ++ (argumentBytes others ++ back)) := by
        rw [whole, toList_encodeArgument]
        simp only [List.append_assoc, argumentBytes]
      rw [← List.length_append]
      exact extract_of_toList cut

theorem exists_reply {arguments : List ByteArray}
    (few : arguments.length ≤ Header.multibulk.largest)
    (bounded : ∀ argument ∈ arguments, argument.size ≤ Header.bulk.largest)
    (front back : List UInt8)
    (whole : data.data.toList = front ++ (encode arguments).data.toList ++ back) :
    ∃ reply, IsReply front.length (encode arguments).data.toList reply ∧
      reply.Carries data arguments := by
  rw [toList_encode] at whole ⊢
  have later : data.data.toList =
      front ++ lengthLine .multibulk (Decimal.numeral arguments.length) ++
        argumentBytes arguments ++ back := by
    rw [whole]
    simp only [List.append_assoc]
  obtain ⟨elements, grammatical, carried⟩ := exists_elements bounded _ later
  have size : arguments.length = elements.toArray.size := carried.length_eq
  rw [List.length_append] at grammatical
  rw [size] at few grammatical ⊢
  exact ⟨_, .multibulk (numeral_numeral _) few grammatical, elements.toArray, by rw [size], carried⟩

end Command

/-- The parser reads what was written into a batch back to the commands: one array for each, whose
elements are its arguments, and nothing is left over. -/
theorem Batch.drain_composed (commands : List (List ByteArray)) (state : Metered Batch)
    (composed : Composed commands state)
    (few : ∀ arguments ∈ commands, arguments.length ≤ Header.multibulk.largest)
    (bounded : ∀ arguments ∈ commands, ∀ argument ∈ arguments,
      argument.size ≤ Header.bulk.largest) :
    ∃ parser replies,
      Parser.drain {} state.item.writeBuffer.filled = .ok ⟨parser, replies, none⟩ ∧
      parser.isIdle = true ∧ parser.position = state.item.writeBuffer.filled.size ∧
      List.Forall₂ (fun arguments reply =>
        reply.Carries state.item.writeBuffer.filled arguments) commands replies := by
  rw [composed.written.holds.buffer.filled]
  have whole := Command.toList_encodeAll commands
  obtain ⟨replies, stream, carried⟩ := Grammar.exists_stream
    (fun arguments member => Command.exists_reply (few arguments member) (bounded arguments member))
    [] [] (whole.trans (List.append_nil _).symm)
  change Grammar.IsStream 0 (Command.bytes commands) replies at stream
  rw [← whole] at stream
  obtain ⟨last, idle, reads⟩ := Parser.read_stream Parser.idle_new stream
  have size : (Command.encodeAll commands).size = (Command.encodeAll commands).data.toList.length :=
    rfl
  refine ⟨last, replies, ?_, idle.isIdle, ?_, carried⟩
  · rw [Parser.drain_new, reads]
  · rw [idle.position, size, Nat.zero_add]

/-- Arguments that look like the end of a line with a header behind it, like nothing, and like a
header. -/
def Command.misleading : List (List ByteArray) := [[⟨#[13, 10, 42]⟩, ⟨#[]⟩], [⟨#[36]⟩]]

def Batch.misleading : Metered Batch :=
  (Ledger.build { readBufferSize := 1, writeBufferSize := 1 } {}
    [.command [⟨#[13, 10, 42]⟩, ⟨#[]⟩], .command [⟨#[36]⟩]]).state

theorem Batch.composed_misleading : Composed Command.misleading misleading := by
  have first : writeCommand [⟨#[13, 10, 42]⟩, ⟨#[]⟩]
      (allocate { readBufferSize := 1, writeBufferSize := 1 } {}) =
      .ok () (Ledger.build { readBufferSize := 1, writeBufferSize := 1 } {}
        [.command [⟨#[13, 10, 42]⟩, ⟨#[]⟩]]).state := by
    cbv
  have second : writeCommand [⟨#[36]⟩]
      (Ledger.build { readBufferSize := 1, writeBufferSize := 1 } {}
        [.command [⟨#[13, 10, 42]⟩, ⟨#[]⟩]]).state = .ok () misleading := by
    cbv
  exact .command (.command (.new _ _) first) second

theorem Batch.drain_misleading :
    ∃ parser replies,
      Parser.drain {} misleading.item.writeBuffer.filled = .ok ⟨parser, replies, none⟩ ∧
      parser.isIdle = true ∧ parser.position = misleading.item.writeBuffer.filled.size ∧
      List.Forall₂ (fun arguments reply =>
        reply.Carries misleading.item.writeBuffer.filled arguments) Command.misleading replies :=
  drain_composed Command.misleading misleading composed_misleading (by decide) (by decide)

end Fanout
