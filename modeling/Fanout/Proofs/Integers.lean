import Fanout.Proofs.Encoding
import Fanout.Proofs.Visiting

/-!
The values of integer replies. A signed decimal text denotes a number by the places of its digits.
The parser takes no other text for an integer, the batch finds it again by its range, and a reader
gets the number if it fits a signed word of 64 bits.
-/

set_option autoImplicit false

namespace Fanout

/-! ### Texts and numbers -/

namespace Decimal

/-- The number whose last digit counts ones, the one before it tens, and so on. -/
def magnitude (digits : List UInt8) : Nat := Nat.ofDigits 10 (digits.map digitValue).reverse

/-- A decimal text, with a minus sign or without one, and its number. Leading zeros are allowed, and
zero may have a sign. -/
inductive Denotes : List UInt8 → Int → Prop where
  | plain {digits : List UInt8} (present : digits ≠ [])
      (decimal : ∀ byte ∈ digits, isDigit byte = true) : Denotes digits (magnitude digits)
  | negative {digits : List UInt8} (present : digits ≠ [])
      (decimal : ∀ byte ∈ digits, isDigit byte = true) :
      Denotes (45 :: digits) (-(magnitude digits : Int))

def Fits (number : Int) : Prop := -2 ^ 63 ≤ number ∧ number ≤ 2 ^ 63 - 1

instance (number : Int) : Decidable (Fits number) :=
  inferInstanceAs (Decidable (_ ∧ _))

/-- Digit by digit from the front, a number comes out as by the places of its digits. -/
theorem valueFrom_eq (accumulated : Nat) (digits : List UInt8) :
    valueFrom accumulated digits = accumulated * 10 ^ digits.length + magnitude digits := by
  induction digits generalizing accumulated with
  | nil => exact (Nat.mul_one accumulated).symm
  | cons byte digits ih =>
      have places : magnitude (byte :: digits) =
          magnitude digits + 10 ^ digits.length * digitValue byte := by
        unfold magnitude
        rw [List.map_cons, List.reverse_cons, Nat.ofDigits_append, Nat.ofDigits_singleton,
          List.length_reverse, List.length_map]
      rw [valueFrom_cons, ih, places, List.length_cons, Nat.pow_succ]
      ring

variable {text digits : List UInt8} {number other : Int}

theorem readDigits_eq (present : digits ≠ []) (decimal : ∀ byte ∈ digits, isDigit byte = true) :
    readDigits digits = some (magnitude digits) := by
  rw [readDigits_of_decimal present decimal, valueFrom_eq, Nat.zero_mul, Nat.zero_add]

theorem Denotes.unique (one : Denotes text number) (two : Denotes text other) :
    number = other := by
  cases one with
  | plain present decimal =>
      cases two with
      | plain => rfl
      | negative => cases decimal 45 List.mem_cons_self
  | negative present decimal =>
      cases two with
      | plain _ decimal' => cases decimal' 45 List.mem_cons_self
      | negative => rfl

/-- A number is read from its text if it fits. -/
theorem Denotes.reads (denotes : Denotes text number) :
    readInteger text = if Fits number then some number else none := by
  have fits : ∀ number : Int,
      (some number).filter (fun value => smallestInteger ≤ value && value ≤ largestInteger) =
        if Fits number then some number else none := by
    intro number
    have bounds : (smallestInteger ≤ number && number ≤ largestInteger) = true ↔ Fits number := by
      rw [Bool.and_eq_true, decide_eq_true_eq, decide_eq_true_eq]
      exact Iff.rfl
    exact if_congr bounds rfl rfl
  cases denotes with
  | plain present decimal =>
      rw [← fits]
      unfold readInteger
      split
      · cases decimal 43 List.mem_cons_self
      · cases decimal 45 List.mem_cons_self
      · dsimp only
        rw [readDigits_eq present decimal]
        rfl
  | negative present decimal =>
      rw [← fits]
      unfold readInteger
      split
      · rename_i digits same
        cases same
      · rename_i digits same
        obtain rfl := List.tail_eq_of_cons_eq same
        dsimp only
        rw [readDigits_eq present decimal]
        rfl
      · rename_i signed
        exact absurd rfl (signed _)

theorem Denotes.value_iff (denotes : Denotes text number) {value : Int} :
    (if Fits number then some number else none) = some value ↔
      Denotes text value ∧ Fits value := by
  constructor
  · intro same
    split at same
    · rename_i fits
      cases same
      exact ⟨denotes, fits⟩
    · cases same
  · rintro ⟨denotes', fits⟩
    rw [denotes.unique denotes', if_pos fits]

theorem denotes_signedNumeral (value : Int) : Denotes (signedNumeral value) value := by
  have denotes : magnitude (numeral value.natAbs) = value.natAbs := by
    have reads := valueFrom_eq 0 (numeral value.natAbs)
    rw [valueFrom_numeral, Nat.zero_mul, Nat.zero_add] at reads
    exact reads.symm
  unfold signedNumeral
  split
  · have written := Denotes.negative (numeral_ne_nil value.natAbs) (isDigit_numeral value.natAbs)
    rw [denotes] at written
    rwa [show -(value.natAbs : Int) = value by omega] at written
  · have written := Denotes.plain (numeral_ne_nil value.natAbs) (isDigit_numeral value.natAbs)
    rw [denotes] at written
    rwa [show (value.natAbs : Int) = value by omega] at written

theorem denotes_toByteArray (value : Int) :
    Denotes (signedNumeral value).toByteArray.data.toList value := by
  rw [List.data_toByteArray]
  exact denotes_signedNumeral value

theorem width_le {value places : Nat} (small : value < 10 ^ (places + 1)) :
    width value ≤ places + 1 := by
  fun_induction width value generalizing places with
  | case1 value single => exact Nat.le_add_left 1 places
  | case2 value large ih =>
      cases places with
      | zero => omega
      | succ places =>
          rw [Nat.pow_succ] at small
          exact Nat.succ_le_succ (ih (Nat.div_lt_of_lt_mul (by omega)))

theorem length_signedNumeral_le {value : Int} (fits : Fits value) :
    (signedNumeral value).length ≤ 20 := by
  have digits : width value.natAbs ≤ 18 + 1 := by
    unfold Fits at fits
    exact width_le (by omega)
  rw [← length_numeral] at digits
  unfold signedNumeral
  split
  · exact Nat.succ_le_succ digits
  · exact Nat.le_succ_of_le digits

end Decimal

/-! ### Lines -/

namespace Grammar

variable {offset : Nat} {bytes text : List UInt8}

theorem lineText_integer : LineText .integer text ↔ ∃ number, Decimal.Denotes text number := by
  constructor
  · rintro ⟨sign, digits, value, rfl | rfl, numeral, rfl⟩
    · exact ⟨_, .plain numeral.present numeral.decimal⟩
    · exact ⟨_, .negative numeral.present numeral.decimal⟩
  · rintro ⟨number, denotes⟩
    cases denotes with
    | plain present decimal => exact ⟨[], text, _, .inl rfl, ⟨present, decimal, rfl⟩, rfl⟩
    | @negative digits present decimal =>
        exact ⟨[45], digits, _, .inr rfl, ⟨present, decimal, rfl⟩, rfl⟩

/-- Only a line is an integer. -/
theorem IsReply.integer {reply : Reply} (grammatical : IsReply offset bytes reply)
    (integer : reply.kind = .integer) :
    ∃ (text : ByteArray) (number : Int), Decimal.Denotes text.data.toList number ∧
      bytes = 58 :: text.data.toList ++ crlf ∧
        reply = .line .integer (offset + 1) text.size := by
  cases grammatical with
  | @line kind text allowed =>
      cases kind with
      | integer =>
          obtain ⟨number, denotes⟩ := lineText_integer.mp allowed
          exact ⟨⟨text.toArray⟩, number, denotes, rfl, rfl⟩
      | ok => cases integer
      | error => cases integer
  | @single _ element only => cases element <;> cases integer
  | multibulkNil => cases integer
  | multibulk => cases integer

/-- Every reply of a stream has its bytes in it. -/
theorem IsStream.among {replies : List Reply} {reply : Reply}
    (stream : IsStream offset bytes replies) (member : reply ∈ replies) :
    ∃ front own back, bytes = front ++ own ++ back ∧ IsReply (offset + front.length) own reply := by
  induction stream with
  | nil => cases member
  | @cons offset first rest head replies grammatical tail ih =>
      rcases List.mem_cons.mp member with rfl | later
      · exact ⟨[], first, rest, rfl, grammatical⟩
      · obtain ⟨front, own, back, rfl, found⟩ := ih later
        refine ⟨first ++ front, own, back, ?_, ?_⟩
        · simp only [List.append_assoc]
        · rwa [List.length_append, ← Nat.add_assoc]

end Grammar

namespace Batch

open Grammar

variable {batch : Batch} {front back : List UInt8} {text : ByteArray} {number : Int}

/-- The text of a line is what the range of its reply holds. -/
theorem Readable.entry_line (readable : batch.Readable) (kind : LineKind) (depth : Nat)
    (whole : batch.readBuffer.filled.data.toList =
      front ++ (lineLead kind :: text.data.toList ++ crlf) ++ back) :
    batch.entry ⟨depth, .line kind (front.length + 1) text.size⟩ =
      .ok ⟨depth, kind.replyKind, some text, text.size⟩ := by
  have size : batch.readBuffer.filled.size = batch.readBuffer.filled.data.toList.length := rfl
  have own : text.data.toList.length = text.size := rfl
  have within : (Reply.line kind (front.length + 1) text.size).Within 0
      batch.readBuffer.filled.size := by
    intro _
    rw [size, whole]
    simp only [Reply.offset, Reply.length, List.length_append, List.length_cons, own]
    omega
  have cut : batch.readBuffer.filled.data.toList =
      (front ++ [lineLead kind]) ++ text.data.toList ++ (crlf ++ back) := by
    rw [whole]
    simp only [List.append_assoc, List.cons_append, List.nil_append]
  have value := extract_of_toList cut
  rw [List.length_append, List.length_singleton] at value
  unfold Batch.entry
  rw [replyData_received readable.inside within rfl]
  simp only [Reply.offset, Reply.length, value]
  rfl

theorem Readable.entry_denotes (readable : batch.Readable)
    (denotes : Decimal.Denotes text.data.toList number) (depth : Nat)
    (whole : batch.readBuffer.filled.data.toList =
      front ++ (58 :: text.data.toList ++ crlf) ++ back) :
    ∃ entry, batch.entry ⟨depth, .line .integer (front.length + 1) text.size⟩ = .ok entry ∧
      entry.kind = .integer ∧ entry.data = some text ∧
      entry.integer = if Decimal.Fits number then some number else none := by
  refine ⟨_, readable.entry_line .integer depth whole, rfl, rfl, ?_⟩
  exact (if_pos rfl).trans denotes.reads

variable {Net Sock : Type} {transport : Transport Net Sock}

theorem Course.received {start : Metered Batch} (started : Started start) {received : ByteArray}
    (course : Course transport start.item received batch) :
    batch.Readable ∧ batch.readBuffer.filled = received := by
  obtain ⟨readable, empty⟩ := started.readable
  have outlasts := course.outlasts readable
  refine ⟨outlasts.readable, ?_⟩
  rw [outlasts.filled, empty, ByteArray.empty_append]

def integerLine (text : ByteArray) : ByteArray := ⟨#[58]⟩ ++ text ++ Command.crlf

theorem toList_integerLine (text : ByteArray) :
    (integerLine text).data.toList = 58 :: text.data.toList ++ crlf := by
  unfold integerLine
  simp only [ByteArray.data_append, Array.toList_append]
  rfl

/-- What is written for a number is read back as one integer reply and nothing else. -/
theorem drain_integerLine (denotes : Decimal.Denotes text.data.toList number) :
    ∃ parser, Parser.drain {} (integerLine text) =
      .ok ⟨parser, [.line .integer 1 text.size], none⟩ := by
  have line : IsReply 0 (58 :: text.data.toList ++ crlf) (.line .integer 1 text.size) :=
    .line (lineText_integer.mpr ⟨number, denotes⟩)
  have stream := IsStream.cons line (.nil _)
  obtain ⟨last, _, reads⟩ := Parser.read_stream Parser.idle_new stream
  refine ⟨last, ?_⟩
  rw [Parser.drain_new, toList_integerLine, ← reads, List.append_nil]

theorem writeDecimal_of_room {content : ByteArray} {state : Metered Batch}
    (holds : state.item.Holds content) {value : Int} (fits : Decimal.Fits value)
    (room : 20 ≤ state.item.writeBuffer.remaining) :
    ∃ after, writeDecimal value state = .ok () after := by
  refine ⟨_, (write_of_room holds ?_ 0).trans (count_zero _)⟩
  rw [List.size_toByteArray]
  exact Nat.le_trans (Decimal.length_signedNumeral_le fits) room

/-- An integer reply is its number. Whatever becomes of a batch that received a stream, the entry of
an integer reply of that stream has a decimal text, and gives its number just if that fits a signed
word of 64 bits; an entry of any other kind gives none. What is written for a number that fits is
such a text, so a line with it is read back to that number. -/
theorem entry_integer {start : Metered Batch} (started : Started start) {received : ByteArray}
    {batch : Batch} (course : Course transport start.item received batch) :
    (∀ reading, Parser.drain {} received = .ok reading →
      ∀ visit : Visit, visit.reply ∈ reading.replies → visit.reply.kind = .integer →
        ∃ entry text number, batch.entry visit = .ok entry ∧ entry.data = some text ∧
          Decimal.Denotes text.data.toList number ∧
          (∀ value, entry.integer = some value ↔
            Decimal.Denotes text.data.toList value ∧ Decimal.Fits value) ∧
          (entry.integer = none ↔ ¬Decimal.Fits number)) ∧
    (∀ visit ∈ batch.visits, visit.reply.kind ≠ .integer →
      ∃ entry, batch.entry visit = .ok entry ∧ entry.integer = none) ∧
    ∀ value, Decimal.Fits value → ∀ content (state : Metered Batch), state.item.Holds content →
      (20 ≤ state.item.writeBuffer.remaining →
        ∃ after, writeDecimal value state = .ok () after) ∧
      ∀ after, writeDecimal value state = .ok () after →
        ∃ numeral parser, after.item.Holds (content ++ numeral) ∧
          Parser.drain {} (integerLine numeral) =
            .ok ⟨parser, [.line .integer 1 numeral.size], none⟩ ∧
          (received = integerLine numeral →
            ∃ entry, batch.entry ⟨1, .line .integer 1 numeral.size⟩ = .ok entry ∧
              entry.kind = .integer ∧ entry.integer = some value) := by
  obtain ⟨readable, filled⟩ := course.received started
  refine ⟨?_, ?_, ?_⟩
  · intro reading drained visit among integer
    rw [Parser.drain_new] at drained
    cases drained
    obtain ⟨whole, part, split, stream, _⟩ := front_read received.data.toList
    obtain ⟨front, own, back, rfl, grammatical⟩ := stream.among among
    obtain ⟨text, number, denotes, rfl, same⟩ := grammatical.integer integer
    rw [List.append_assoc (front ++ _), ← filled] at split
    rw [Nat.zero_add] at same
    obtain ⟨entry, reads, _, data, value⟩ := readable.entry_denotes denotes visit.depth split
    rw [← same] at reads
    refine ⟨entry, text, number, reads, data, denotes, ?_, ?_⟩
    · intro other
      rw [value]
      exact denotes.value_iff
    · rw [value]
      exact ite_eq_right_iff.trans (forall_congr' fun _ => iff_of_false nofun id)
  · intro visit among other
    obtain ⟨entry, reads⟩ := readable.entry among
    refine ⟨entry, reads, if_neg ?_⟩
    unfold Batch.entry at reads
    cases data : batch.replyData visit.reply with
    | error rule =>
        rw [data] at reads
        cases reads
    | ok data =>
        rw [data] at reads
        cases reads
        exact other
  · intro value fits content state holds
    refine ⟨writeDecimal_of_room holds fits, ?_⟩
    intro after wrote
    have denotes := Decimal.denotes_toByteArray value
    obtain ⟨parser, drained⟩ := drain_integerLine denotes
    refine ⟨_, parser, (write_ok holds wrote).1, drained, ?_⟩
    intro same
    have whole : batch.readBuffer.filled.data.toList =
        [] ++ (58 :: (Decimal.signedNumeral value).toByteArray.data.toList ++ crlf) ++ [] := by
      rw [filled, same, toList_integerLine, List.append_nil, List.nil_append]
    obtain ⟨entry, reads, kind, _, reading⟩ := readable.entry_denotes denotes 1 whole
    rw [if_pos fits] at reading
    exact ⟨entry, reads, kind, reading⟩

def below : Batch :=
  (useAll [.write ⟨#[43, 13, 10]⟩ 1,
    .store (integerLine (Decimal.signedNumeral (-2 ^ 63 - 1)).toByteArray),
    .push (.line .integer 1 20)] (allocate { readBufferSize := 32, writeBufferSize := 3 } {})).item

theorem entry_integer_below :
    ∃ entry, below.entry ⟨1, .line .integer 1 20⟩ = .ok entry ∧ entry.integer = none := by
  have course : Course Round.stranded
      (allocate { readBufferSize := 32, writeBufferSize := 3 } {}).item _ below :=
    ((Course.rests.used _ (.write ⟨#[43, 13, 10]⟩ 1) trivial).used _
      (.store (integerLine (Decimal.signedNumeral (-2 ^ 63 - 1)).toByteArray)) trivial).used _
      (.push (.line .integer 1 20)) ⟨{}, _, .idle _, Prod.ext rfl (by decide +kernel)⟩
  obtain ⟨integers, _, _⟩ := entry_integer (.made _ _) course
  obtain ⟨entry, text, number, reads, data, denotes, _, none_iff⟩ :=
    integers _ (Parser.drain_new _) ⟨1, .line .integer 1 20⟩ (by decide +kernel) rfl
  have found : below.replyData (.line .integer 1 20) =
      .ok (some (Decimal.signedNumeral (-2 ^ 63 - 1)).toByteArray) := by
    decide +kernel
  have there : below.entry ⟨1, .line .integer 1 20⟩ =
      .ok ⟨1, .integer, some (Decimal.signedNumeral (-2 ^ 63 - 1)).toByteArray, 20⟩ := by
    unfold Batch.entry
    rw [found]
    rfl
  cases there.symm.trans reads
  cases data
  rw [denotes.unique (Decimal.denotes_toByteArray _)] at none_iff
  exact ⟨_, there, none_iff.mpr (by decide)⟩

end Batch

end Fanout
