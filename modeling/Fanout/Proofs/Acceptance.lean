import Fanout.Proofs.Grammar
import Fanout.Proofs.Reading

/-!
What the grammar allows is read: a parser that begins a reply at its offset takes every byte of it
and delivers it with the last one, and a stream is read to its replies.
-/

set_option autoImplicit false

namespace Fanout

namespace Decimal

theorem valueFrom_cons (accumulated : Nat) (byte : UInt8) (digits : List UInt8) :
    valueFrom accumulated (byte :: digits) =
      valueFrom (accumulated * 10 + digitValue byte) digits := by
  simp only [valueFrom, List.foldl_cons]

theorem valueFrom_append (accumulated : Nat) (first second : List UInt8) :
    valueFrom accumulated (first ++ second) = valueFrom (valueFrom accumulated first) second :=
  List.foldl_append

theorem le_valueFrom (accumulated : Nat) (digits : List UInt8) :
    accumulated ≤ valueFrom accumulated digits := by
  induction digits generalizing accumulated with
  | nil => exact Nat.le_refl _
  | cons byte digits ih =>
      have later := ih (accumulated * 10 + digitValue byte)
      rw [valueFrom_cons]
      omega

theorem isDigit_minus : isDigit 45 = false := rfl

theorem isDigit_carriageReturn : isDigit 13 = false := rfl

end Decimal

theorem Header.largest_lt (header : Header) : header.largest < largestWord := by
  cases header <;> simp only [largest, largestBulk, largestMultibulk, largestWord] <;> omega

namespace Parser

theorem accumulate_eq_ok {header : Header} {length : Nat} {byte : UInt8}
    (bounded : length * 10 + Decimal.digitValue byte ≤ header.largest) :
    accumulate header length byte = .ok (length * 10 + Decimal.digitValue byte) := by
  have word := header.largest_lt
  unfold accumulate
  dsimp only
  rw [if_neg (by omega), if_neg (by omega)]

theorem feedLengthDigit_of_le {parser : Parser} {header : Header} {byte : UInt8}
    (bounded : parser.length * 10 + Decimal.digitValue byte ≤ header.largest) :
    parser.feedLengthDigit header byte =
      ({ parser with
          length := parser.length * 10 + Decimal.digitValue byte
          phase := .lengthDigits header }, .incomplete) := by
  unfold feedLengthDigit
  rw [accumulate_eq_ok bounded]
  rfl

/-! ### Length lines -/

theorem read_snoc {parser next : Parser} {left : List UInt8}
    (first : parser.read left = ⟨next, [], none⟩) (byte : UInt8) :
    parser.read (left ++ [byte]) =
      ⟨(next.feed byte).1, (next.feed byte).2.replies, (next.feed byte).2.error⟩ := by
  rw [read_append_of_fine first]
  cases fed : next.feed byte with
  | mk last progress => cases progress <;> simp only [read, fed] <;> rfl

theorem read_append_quiet {parser next : Parser} {left : List UInt8}
    (first : parser.read left = ⟨next, [], none⟩) (right : List UInt8) :
    parser.read (left ++ right) = next.read right :=
  read_append_of_fine first right

theorem read_lengthDigits (parser : Parser) (header : Header)
    (started : parser.phase = .lengthDigits header) {digits : List UInt8}
    (decimal : ∀ byte ∈ digits, Decimal.isDigit byte = true)
    (bounded : Decimal.valueFrom parser.length digits ≤ header.largest) :
    parser.read digits =
      ⟨{ parser with
          position := parser.position + digits.length
          length := Decimal.valueFrom parser.length digits }, [], none⟩ := by
  induction digits generalizing parser with
  | nil => rfl
  | cons byte digits ih =>
      have first : parser.length * 10 + Decimal.digitValue byte ≤ header.largest :=
        Nat.le_trans (Decimal.le_valueFrom _ digits) bounded
      have fed : parser.feed byte =
          ({ parser with
              position := parser.position + 1
              length := parser.length * 10 + Decimal.digitValue byte }, .incomplete) := by
        have digit := decimal byte List.mem_cons_self
        simp only [feed, started, digit, if_true]
        exact feedLengthDigit_of_le first
      rw [read_of_incomplete fed,
        ih { parser with
          position := parser.position + 1
          length := parser.length * 10 + Decimal.digitValue byte } started
          (fun other member => decimal other (List.mem_cons_of_mem _ member)) bounded,
        List.length_cons]
      simp only [Nat.add_assoc, Nat.add_comm 1, Decimal.valueFrom_cons]

theorem read_numeral (parser : Parser) (header : Header)
    (started : parser.phase = .lengthStart header) (zero : parser.length = 0)
    {digits : List UInt8} {value : Nat} (numeral : Grammar.Numeral digits value)
    (bounded : value ≤ header.largest) :
    parser.read digits =
      ⟨{ parser with
          position := parser.position + digits.length
          length := value
          phase := .lengthDigits header }, [], none⟩ := by
  obtain ⟨present, decimal, rfl⟩ := numeral
  cases digits with
  | nil => exact absurd rfl present
  | cons byte digits =>
      have digit := decimal byte List.mem_cons_self
      have minus : byte ≠ 45 := by
        rintro rfl
        rw [Decimal.isDigit_minus] at digit
        cases digit
      rw [Decimal.valueFrom_cons] at bounded ⊢
      have first : parser.length * 10 + Decimal.digitValue byte ≤ header.largest := by
        rw [zero]
        exact Nat.le_trans (Decimal.le_valueFrom _ digits) bounded
      have fed : parser.feed byte =
          ({ parser with
              position := parser.position + 1
              length := 0 * 10 + Decimal.digitValue byte
              phase := .lengthDigits header }, .incomplete) := by
        simp only [feed, started, digit, if_neg minus, if_true, ← zero]
        exact feedLengthDigit_of_le first
      rw [read_of_incomplete fed, read_lengthDigits _ header rfl
        (fun other member => decimal other (List.mem_cons_of_mem _ member)) bounded,
        List.length_cons]
      simp only [Nat.add_assoc, Nat.add_comm 1]

def atLengthEnd (parser : Parser) (header : Header) (digits : List UInt8) (value : Nat) : Parser :=
  { parser with
    position := parser.position + (Grammar.lengthLine header digits).length
    mark := parser.position + 1
    length := value
    phase := .lengthLf header }

theorem feed_headerLead (parser : Parser) (header : Header) (idle : parser.phase = .start)
    (allowed : parser.parent = none ∨ header = .bulk) :
    parser.feed (Grammar.headerLead header) =
      ({ parser with
          position := parser.position + 1
          mark := parser.position + 1
          length := 0
          phase := .lengthStart header }, .incomplete) := by
  have leads : leadPhase parser.parent.isSome (Grammar.headerLead header) =
      some (.lengthStart header) := by
    rcases allowed with top | rfl
    · rw [top]
      cases header <;> rfl
    · cases parser.parent <;> rfl
  simp only [feed, idle, leads, enter]

theorem read_lengthLine (parser : Parser) (header : Header) (idle : parser.phase = .start)
    (allowed : parser.parent = none ∨ header = .bulk) {digits : List UInt8} {value : Nat}
    (numeral : Grammar.Numeral digits value) (bounded : value ≤ header.largest) :
    parser.read (Grammar.lengthLine header digits) =
      ⟨((parser.atLengthEnd header digits value).finishLength header).1,
        ((parser.atLengthEnd header digits value).finishLength header).2.replies,
        ((parser.atLengthEnd header digits value).finishLength header).2.error⟩ := by
  have lead := read_single (feed_headerLead parser header idle allowed)
  have number := read_numeral { parser with
    position := parser.position + 1
    mark := parser.position + 1
    length := 0
    phase := .lengthStart header } header rfl rfl numeral bounded
  have line := read_append_quiet lead digits
  rw [number] at line
  have ended := read_snoc line 13
  have fed : Parser.feed { parser with
        position := parser.position + 1 + digits.length
        mark := parser.position + 1
        length := value
        phase := .lengthDigits header } 13 =
      ({ parser with
          position := parser.position + 1 + digits.length + 1
          mark := parser.position + 1
          length := value
          phase := .lengthLf header }, .incomplete) := by
    simp only [feed, Decimal.isDigit_carriageReturn, Bool.false_eq_true, if_false, carriageReturn,
      if_true, enter]
  rw [fed] at ended
  have closed := read_snoc ended 10
  have size : parser.position + 1 + digits.length + 1 + 1 =
      parser.position + (Grammar.lengthLine header digits).length := by
    simp only [Grammar.lengthLine, Grammar.crlf, List.length_append, List.length_cons,
      List.length_nil]
    omega
  have final : Parser.feed { parser with
        position := parser.position + 1 + digits.length + 1
        mark := parser.position + 1
        length := value
        phase := .lengthLf header } 10 =
      (parser.atLengthEnd header digits value).finishLength header := by
    simp only [feed, lineFeed, if_true, size]
    rfl
  rw [final] at closed
  rw [← closed]
  simp only [Grammar.lengthLine, Grammar.crlf, List.append_assoc, List.cons_append,
    List.nil_append]

/-! ### Elements -/

def beforeNilEnd (parser : Parser) (header : Header) : Parser :=
  { parser with
    position := parser.position + 4
    mark := parser.position + 1
    length := 0
    phase := .lengthNilLf header }

theorem read_nilLine (parser : Parser) (header : Header) (idle : parser.phase = .start)
    (allowed : parser.parent = none ∨ header = .bulk) :
    parser.read (Grammar.nilLine header) =
      ⟨((parser.beforeNilEnd header).feed 10).1, ((parser.beforeNilEnd header).feed 10).2.replies,
        ((parser.beforeNilEnd header).feed 10).2.error⟩ := by
  have line : parser.read [Grammar.headerLead header, 45, 49, 13] =
      ⟨parser.beforeNilEnd header, [], none⟩ := by
    rw [read_of_incomplete (feed_headerLead parser header idle allowed)]
    rfl
  exact read_snoc line 10

theorem error_finishElement (parser : Parser) (element : Element) :
    (parser.finishElement element).2.error = none := by
  unfold finishElement finish
  split
  · rfl
  · dsimp only
    split <;> rfl

theorem read_bulkBody (parser : Parser) (mark : Nat) (body : List UInt8) :
    Parser.read { parser with
        mark := mark
        length := body.length
        phase := if body.length = 0 then .bulkCr else .bulkBody } (body ++ [13]) =
      ⟨{ parser with
          position := parser.position + body.length + 1
          mark := mark
          length := 0
          phase := .bulkLf }, [], none⟩ := by
  cases body with
  | nil => rfl
  | cons byte body =>
      rw [List.length_cons, if_neg (Nat.succ_ne_zero _),
        read_append_quiet (read_body _ rfl (List.cons_ne_nil byte body) (Nat.le_refl _))]
      simp only [List.length_cons, Nat.sub_self, if_true]
      rfl

theorem read_element {parser : Parser} (idle : parser.phase = .start) {bytes : List UInt8}
    {element : Element} (grammatical : Grammar.IsElement parser.position bytes element) :
    ∃ last : Parser, last.position = parser.position + bytes.length ∧
      last.parent = parser.parent ∧
      parser.read bytes =
        ⟨(last.finishElement element).1, (last.finishElement element).2.replies, none⟩ := by
  cases grammatical with
  | nil =>
      refine ⟨{ parser.beforeNilEnd .bulk with position := parser.position + 5 }, rfl, rfl, ?_⟩
      rw [read_nilLine parser .bulk idle (.inr rfl), ← error_finishElement]
      rfl
  | @bulk digits body numeral bounded =>
      have header := read_lengthLine parser .bulk idle (.inr rfl) numeral bounded
      have content := read_append_quiet header (body ++ [13])
      have ended := read_bulkBody (parser.atLengthEnd .bulk digits body.length)
        (parser.atLengthEnd .bulk digits body.length).position body
      have line := content.trans ended
      have closed := read_snoc line 10
      refine ⟨{ parser.atLengthEnd .bulk digits body.length with
        position := (parser.atLengthEnd .bulk digits body.length).position + body.length + 2
        mark := (parser.atLengthEnd .bulk digits body.length).position
        length := 0
        phase := .bulkLf }, ?_, rfl, ?_⟩
      · simp only [atLengthEnd, Grammar.crlf, List.length_append, List.length_cons,
          List.length_nil]
        omega
      · have length : (parser.atLengthEnd .bulk digits body.length).position + body.length + 1 - 1 -
            (parser.atLengthEnd .bulk digits body.length).position = body.length := by omega
        have bytes : Grammar.lengthLine .bulk digits ++ body ++ Grammar.crlf =
            Grammar.lengthLine .bulk digits ++ (body ++ [13]) ++ [10] := by
          simp only [Grammar.crlf, List.append_assoc, List.cons_append, List.nil_append]
        rw [bytes, closed]
        simp only [feed, lineFeed, if_true, length, error_finishElement]
        rfl

structure Idle (parser : Parser) (offset : Nat) : Prop where
  phase : parser.phase = .start
  position : parser.position = offset
  parent : parser.parent = none

theorem idle_new : ({} : Parser).Idle 0 := ⟨rfl, rfl, rfl⟩

theorem finishElement_of_top {parser : Parser} (top : parser.parent = none) (element : Element) :
    parser.finishElement element = parser.finish (.single element) := by
  obtain ⟨position, phase, mark, length, parent⟩ := parser
  cases top
  rfl

theorem finishElement_of_open {parser : Parser} {count : Nat} {elements : Array Element}
    (nested : parser.parent = some ⟨count, elements⟩) (element : Element) :
    parser.finishElement element =
      if elements.size + 1 = count then
        ({ parser with phase := .start, parent := none },
          .complete (.multibulk count (elements.push element)))
      else
        ({ parser with phase := .start, parent := some ⟨count, elements.push element⟩ },
          .incomplete) := by
  obtain ⟨position, phase, mark, length, parent⟩ := parser
  cases nested
  simp only [finishElement, Array.size_push, finish]

/-- The elements that an open array still misses complete it. -/
theorem read_elements (parser : Parser) (idle : parser.phase = .start) {count : Nat}
    (elements : Array Element) (nested : parser.parent = some ⟨count, elements⟩)
    {bytes : List UInt8} {missing : List Element} (present : missing ≠ [])
    (grammatical : Grammar.AreElements parser.position bytes missing)
    (exact_ : elements.size + missing.length = count) :
    ∃ last : Parser, last.Idle (parser.position + bytes.length) ∧
      parser.read bytes = ⟨last, [.multibulk count (elements ++ missing.toArray)], none⟩ := by
  induction missing generalizing parser elements bytes with
  | nil => exact absurd rfl present
  | cons element missing ih =>
      cases grammatical with
      | @cons _ first rest _ _ head tail =>
          obtain ⟨last, position, parent, reads⟩ := read_element idle head
          rw [nested] at parent
          rw [finishElement_of_open parent] at reads
          rw [List.length_cons] at exact_
          cases missing with
          | nil =>
              cases tail
              have full : elements.size + 1 = count := exact_
              rw [if_pos full] at reads
              rw [List.append_nil]
              exact ⟨{ last with phase := .start, parent := none }, ⟨rfl, position, rfl⟩, reads⟩
          | cons second missing =>
              rw [if_neg (by rw [List.length_cons] at exact_; omega)] at reads
              rw [← position] at tail
              obtain ⟨final, ends, more⟩ := ih { last with
                  phase := .start
                  parent := some ⟨count, elements.push element⟩ } rfl (elements.push element) rfl
                (List.cons_ne_nil _ _) tail (by rw [Array.size_push]; omega)
              refine ⟨final, ?_, ?_⟩
              · rw [List.length_append, ← Nat.add_assoc, ← position]
                exact ends
              · have joined : elements.push element ++ (second :: missing).toArray =
                    elements ++ (element :: second :: missing).toArray := by
                  simp only [← Array.toList_inj, Array.toList_append, Array.toList_push,
                    List.append_assoc, List.cons_append, List.nil_append]
                rw [read_append_quiet reads, more, joined]

/-! ### Replies -/

theorem isDigit_ne_minus {byte : UInt8} (digit : Decimal.isDigit byte = true) : byte ≠ 45 := by
  rintro rfl
  rw [Decimal.isDigit_minus] at digit
  cases digit

theorem read_integerDigits (parser : Parser) (inDigits : parser.phase = .integerDigits)
    {digits : List UInt8} (decimal : ∀ byte ∈ digits, Decimal.isDigit byte = true) :
    parser.read digits =
      ⟨{ parser with position := parser.position + digits.length }, [], none⟩ := by
  induction digits generalizing parser with
  | nil => rfl
  | cons byte digits ih =>
      have fed : parser.feed byte =
          ({ parser with position := parser.position + 1 }, .incomplete) := by
        simp only [feed, inDigits, decimal byte List.mem_cons_self, if_true, enter]
      rw [read_of_incomplete fed, ih { parser with position := parser.position + 1 } inDigits
        (fun other member => decimal other (List.mem_cons_of_mem _ member)), List.length_cons]
      simp only [Nat.add_assoc, Nat.add_comm 1]

theorem read_firstDigits (parser : Parser)
    (signed : parser.phase = .integerSign ∨ parser.phase = .integerFirstDigit)
    {digits : List UInt8} {value : Nat} (numeral : Grammar.Numeral digits value) :
    parser.read digits =
      ⟨{ parser with
          position := parser.position + digits.length
          phase := .integerDigits }, [], none⟩ := by
  obtain ⟨present, decimal, _⟩ := numeral
  cases digits with
  | nil => exact absurd rfl present
  | cons byte digits =>
      have digit := decimal byte List.mem_cons_self
      have fed : parser.feed byte =
          ({ parser with
              position := parser.position + 1
              phase := .integerDigits }, .incomplete) := by
        rcases signed with atSign | afterSign
        · simp only [feed, atSign, if_neg (isDigit_ne_minus digit), digit, if_true, enter]
        · simp only [feed, afterSign, digit, if_true, enter]
      rw [read_of_incomplete fed, read_integerDigits _ rfl
        (fun other member => decimal other (List.mem_cons_of_mem _ member)), List.length_cons]
      simp only [Nat.add_assoc, Nat.add_comm 1]

theorem read_integerText (parser : Parser) (signed : parser.phase = .integerSign)
    {text : List UInt8} (number : Grammar.LineText .integer text) :
    parser.read text =
      ⟨{ parser with
          position := parser.position + text.length
          phase := .integerDigits }, [], none⟩ := by
  obtain ⟨sign, digits, value, either, numeral, rfl⟩ := number
  rcases either with rfl | rfl
  · exact read_firstDigits parser (.inl signed) numeral
  · have fed : parser.feed 45 =
        ({ parser with
            position := parser.position + 1
            phase := .integerFirstDigit }, .incomplete) := by
      simp only [feed, signed, if_true, enter]
    rw [read_append_quiet (read_single fed), read_firstDigits _ (.inr rfl) numeral,
      List.length_append]
    simp only [List.length_cons, List.length_nil, Nat.add_assoc, Nat.zero_add]

theorem feed_lineLead (parser : Parser) (idle : parser.phase = .start) (top : parser.parent = none)
    (kind : LineKind) :
    parser.feed (Grammar.lineLead kind) =
      ({ parser with
          position := parser.position + 1
          mark := parser.position + 1
          length := 0
          phase := if kind = .integer then .integerSign else .line kind }, .incomplete) := by
  have leads : leadPhase parser.parent.isSome (Grammar.lineLead kind) =
      some (if kind = .integer then .integerSign else .line kind) := by
    rw [top]
    cases kind <;> rfl
  simp only [feed, idle, leads, enter]

theorem read_lineText {parser : Parser} {offset : Nat} (idle : parser.Idle offset)
    {kind : LineKind} {text : List UInt8} (allowed : Grammar.LineText kind text) :
    parser.read (Grammar.lineLead kind :: text ++ [13]) =
      ⟨{ parser with
          position := offset + 1 + text.length + 1
          mark := offset + 1
          length := 0
          phase := .lineLf kind }, [], none⟩ := by
  obtain ⟨start, rfl, top⟩ := idle
  rw [List.cons_append, read_of_incomplete (feed_lineLead parser start top kind)]
  cases kind with
  | integer =>
      rw [if_pos rfl, read_append_quiet (read_integerText _ rfl allowed)]
      exact read_single rfl
  | ok =>
      rw [if_neg nofun, read_append_quiet (read_text _ .ok rfl allowed)]
      exact read_single rfl
  | error =>
      rw [if_neg nofun, read_append_quiet (read_text _ .error rfl allowed)]
      exact read_single rfl

theorem idle_finish (parser : Parser) (top : parser.parent = none) (reply : Reply) :
    (parser.finish reply).1.Idle parser.position :=
  ⟨rfl, rfl, top⟩

theorem finishLength_multibulk (parser : Parser) :
    parser.finishLength .multibulk =
      if parser.length = 0 then parser.finish (.multibulk 0 #[])
      else ({ parser with phase := .start, parent := some ⟨parser.length, #[]⟩ }, .incomplete) :=
  rfl

theorem read_multibulk {parser : Parser} (start : parser.phase = .start)
    (top : parser.parent = none) {digits content : List UInt8} {elements : Array Element}
    (count : Grammar.Numeral digits elements.size)
    (bounded : elements.size ≤ Header.multibulk.largest)
    (children : Grammar.AreElements
      (parser.position + (Grammar.lengthLine .multibulk digits).length) content elements.toList) :
    ∃ last : Parser,
      last.Idle (parser.position + (Grammar.lengthLine .multibulk digits ++ content).length) ∧
        parser.read (Grammar.lengthLine .multibulk digits ++ content) =
          ⟨last, [.multibulk elements.size elements], none⟩ := by
  have header := read_lengthLine parser .multibulk start (.inl top) count bounded
  have announced : (parser.atLengthEnd .multibulk digits elements.size).length = elements.size :=
    rfl
  rw [finishLength_multibulk, announced] at header
  by_cases empty : elements.size = 0
  · rw [if_pos empty] at header
    obtain rfl := Array.eq_empty_of_size_eq_zero empty
    cases children
    rw [List.append_nil]
    exact ⟨_, idle_finish (parser.atLengthEnd .multibulk digits 0) top _, header⟩
  · rw [if_neg empty] at header
    have present : elements.toList ≠ [] := by
      intro none_
      exact empty (by rw [← Array.length_toList, none_, List.length_nil])
    have opened := read_elements { parser.atLengthEnd .multibulk digits elements.size with
        phase := .start
        parent := some ⟨elements.size, #[]⟩ } rfl #[] rfl present children
      (by rw [Array.size_empty, Array.length_toList, Nat.zero_add])
    obtain ⟨last, ends, reads⟩ := opened
    refine ⟨last, ?_, ?_⟩
    · rw [List.length_append, ← Nat.add_assoc]
      exact ends
    · rw [Array.empty_append] at reads
      exact (read_append_quiet header content).trans reads

/-- A parser between two replies takes a whole reply and delivers it with its last byte. -/
theorem read_reply {parser : Parser} {offset : Nat} (idle : parser.Idle offset)
    {bytes : List UInt8} {reply : Reply} (grammatical : Grammar.IsReply offset bytes reply) :
    ∃ last : Parser, last.Idle (offset + bytes.length) ∧
      parser.read bytes = ⟨last, [reply], none⟩ := by
  have line_ := @read_lineText parser offset idle
  obtain ⟨start, rfl, top⟩ := idle
  cases grammatical with
  | @line kind text allowed =>
      have closed := read_snoc (line_ allowed) 10
      refine ⟨{ parser with
        position := parser.position + 1 + text.length + 1 + 1
        mark := parser.position + 1
        length := 0
        phase := .start }, ⟨rfl, ?_, top⟩, ?_⟩
      · simp only [Grammar.crlf, List.length_append, List.length_cons, List.length_nil]
        omega
      · have length : parser.position + 1 + text.length + 1 - 1 - (parser.position + 1) =
            text.length := by omega
        have bytes : Grammar.lineLead kind :: text ++ Grammar.crlf =
            Grammar.lineLead kind :: text ++ [13] ++ [10] := by
          simp only [Grammar.crlf, List.append_assoc, List.cons_append, List.nil_append]
        rw [bytes, closed]
        simp only [feed, lineFeed, if_true, finish, length]
        rfl
  | single only =>
      obtain ⟨last, position, parent, reads⟩ := read_element start only
      rw [finishElement_of_top (parent.trans top)] at reads
      refine ⟨_, ?_, reads⟩
      rw [← position]
      exact idle_finish last (parent.trans top) _
  | multibulkNil =>
      have reads := read_nilLine parser .multibulk start (.inl top)
      exact ⟨((parser.beforeNilEnd .multibulk).feed 10).1, ⟨rfl, rfl, top⟩, reads⟩
  | @multibulk digits content elements count bounded children =>
      exact read_multibulk start top count bounded children

/-- A stream is read to its replies, and then no reply is open. -/
theorem read_stream {parser : Parser} {offset : Nat} (idle : parser.Idle offset)
    {bytes : List UInt8} {replies : List Reply}
    (grammatical : Grammar.IsStream offset bytes replies) :
    ∃ last : Parser, last.Idle (offset + bytes.length) ∧
      parser.read bytes = ⟨last, replies, none⟩ := by
  induction grammatical generalizing parser with
  | nil offset => exact ⟨parser, idle, rfl⟩
  | @cons offset first rest reply replies head tail ih =>
      obtain ⟨middle, between, reads⟩ := read_reply idle head
      obtain ⟨last, ends, more⟩ := ih between
      refine ⟨last, ?_, ?_⟩
      · rw [List.length_append, ← Nat.add_assoc]
        exact ends
      · rw [read_append_of_fine reads, more]
        rfl

end Parser

end Fanout
