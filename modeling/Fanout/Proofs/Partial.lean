import Fanout.Proofs.Acceptance

/-!
What a parser in the middle of a reply has read. `Partial` ties every phase to the bytes since the
reply began; a byte that is taken either extends them or completes a reply of the grammar, and
whatever was read can still be completed.
-/

set_option autoImplicit false

namespace Fanout

open Grammar

/-- The bytes of a value that is begun at `offset`, with the registers that go with each phase.
Inside an array only bulk values begin. -/
inductive Begun (offset : Nat) (nested : Bool) : Phase → Nat → Nat → List UInt8 → Prop where
  | start {mark length : Nat} : Begun offset nested .start mark length []
  | line {kind : LineKind} {text : List UInt8} (top : nested = false) (worded : kind ≠ .integer)
      (plain : 13 ∉ text) :
      Begun offset nested (.line kind) (offset + 1) 0 (lineLead kind :: text)
  | lineLf {kind : LineKind} {text : List UInt8} (top : nested = false)
      (allowed : LineText kind text) :
      Begun offset nested (.lineLf kind) (offset + 1) 0 (lineLead kind :: text ++ [13])
  | integerSign (top : nested = false) : Begun offset nested .integerSign (offset + 1) 0 [58]
  | integerFirstDigit (top : nested = false) :
      Begun offset nested .integerFirstDigit (offset + 1) 0 [58, 45]
  | integerDigits {text : List UInt8} (top : nested = false)
      (allowed : LineText .integer text) :
      Begun offset nested .integerDigits (offset + 1) 0 (58 :: text)
  | lengthStart {header : Header} (allowed : nested = false ∨ header = .bulk) :
      Begun offset nested (.lengthStart header) (offset + 1) 0 [headerLead header]
  | lengthDigits {header : Header} {digits : List UInt8} {value : Nat}
      (allowed : nested = false ∨ header = .bulk) (numeral : Numeral digits value)
      (bounded : value ≤ header.largest) :
      Begun offset nested (.lengthDigits header) (offset + 1) value (headerLead header :: digits)
  | lengthLf {header : Header} {digits : List UInt8} {value : Nat}
      (allowed : nested = false ∨ header = .bulk) (numeral : Numeral digits value)
      (bounded : value ≤ header.largest) :
      Begun offset nested (.lengthLf header) (offset + 1) value
        (headerLead header :: digits ++ [13])
  | lengthNil {header : Header} (allowed : nested = false ∨ header = .bulk) :
      Begun offset nested (.lengthNil header) (offset + 1) 0 [headerLead header, 45]
  | lengthNilCr {header : Header} (allowed : nested = false ∨ header = .bulk) :
      Begun offset nested (.lengthNilCr header) (offset + 1) 0 [headerLead header, 45, 49]
  | lengthNilLf {header : Header} (allowed : nested = false ∨ header = .bulk) :
      Begun offset nested (.lengthNilLf header) (offset + 1) 0 [headerLead header, 45, 49, 13]
  | bulkBody {digits body : List UInt8} {missing : Nat}
      (numeral : Numeral digits (body.length + missing))
      (bounded : body.length + missing ≤ Header.bulk.largest) (more : 0 < missing) :
      Begun offset nested .bulkBody (offset + (lengthLine .bulk digits).length) missing
        (lengthLine .bulk digits ++ body)
  | bulkCr {digits body : List UInt8} (numeral : Numeral digits body.length)
      (bounded : body.length ≤ Header.bulk.largest) :
      Begun offset nested .bulkCr (offset + (lengthLine .bulk digits).length) 0
        (lengthLine .bulk digits ++ body)
  | bulkLf {digits body : List UInt8} (numeral : Numeral digits body.length)
      (bounded : body.length ≤ Header.bulk.largest) :
      Begun offset nested .bulkLf (offset + (lengthLine .bulk digits).length) 0
        (lengthLine .bulk digits ++ body ++ [13])

inductive Opened (offset : Nat) : Option OpenMultibulk → List UInt8 → Prop where
  | top : Opened offset none []
  | multibulk {digits content : List UInt8} {count : Nat} {elements : Array Element}
      (numeral : Numeral digits count) (bounded : count ≤ Header.multibulk.largest)
      (children : AreElements (offset + (lengthLine .multibulk digits).length) content
        elements.toList)
      (short : elements.size < count) :
      Opened offset (some ⟨count, elements⟩) (lengthLine .multibulk digits ++ content)

structure Partial (offset : Nat) (parser : Parser) (bytes : List UInt8) : Prop where
  split : ∃ outer inner, bytes = outer ++ inner ∧ Opened offset parser.parent outer ∧
    Begun (offset + outer.length) parser.parent.isSome parser.phase parser.mark parser.length inner
  position : parser.position = offset + bytes.length

theorem Opened.of_top {offset : Nat} {parent : Option OpenMultibulk} {outer : List UInt8}
    (opened : Opened offset parent outer) (top : parent.isSome = false) :
    parent = none ∧ outer = [] := by
  cases opened with
  | top => exact ⟨rfl, rfl⟩
  | multibulk => cases top

namespace Partial

theorem of_idle {parser : Parser} {offset : Nat} (idle : parser.Idle offset) :
    Partial offset parser [] := by
  obtain ⟨phase, position, parent⟩ := idle
  constructor
  · refine ⟨[], [], rfl, ?_, ?_⟩
    · rw [parent]
      exact .top
    · rw [phase]
      exact .start
  · exact position

theorem eq_nil_of_isIdle {parser : Parser} {offset : Nat} {bytes : List UInt8}
    (partly : Partial offset parser bytes) (idle : parser.isIdle = true) : bytes = [] := by
  obtain ⟨outer, inner, rfl, opened, begun⟩ := partly.split
  obtain ⟨position, phase, mark, length, parent⟩ := parser
  simp only [Parser.isIdle, Bool.and_eq_true, decide_eq_true_eq, Option.isNone_iff_eq_none] at idle
  obtain ⟨rfl, rfl⟩ := idle
  cases opened
  cases begun
  rfl

end Partial

namespace Parser

theorem bounded_of_accumulate {header : Header} {length extended : Nat} {byte : UInt8}
    (taken : accumulate header length byte = .ok extended) :
    extended = length * 10 + Decimal.digitValue byte ∧ extended ≤ header.largest := by
  unfold accumulate at taken
  dsimp only at taken
  split at taken
  · cases taken
  · split at taken
    · cases taken
    · rename_i _ bounded
      cases taken
      exact ⟨rfl, Nat.le_of_not_lt bounded⟩

end Parser

theorem Grammar.Numeral.snoc {digits : List UInt8} {value : Nat} (numeral : Numeral digits value)
    {byte : UInt8} (digit : Decimal.isDigit byte = true) :
    Numeral (digits ++ [byte]) (value * 10 + Decimal.digitValue byte) := by
  obtain ⟨present, decimal, rfl⟩ := numeral
  refine ⟨List.append_ne_nil_of_left_ne_nil present _, ?_, ?_⟩
  · intro other member
    rcases List.mem_append.mp member with earlier | last
    · exact decimal other earlier
    · rwa [List.mem_singleton.mp last]
  · rw [Decimal.valueFrom_append]
    rfl

theorem Grammar.Numeral.digit {byte : UInt8} (digit : Decimal.isDigit byte = true) :
    Numeral [byte] (0 * 10 + Decimal.digitValue byte) :=
  ⟨List.cons_ne_nil _ _, fun _ member => by rwa [List.mem_singleton.mp member], rfl⟩

theorem Grammar.LineText.snoc_integer {text : List UInt8} (allowed : LineText .integer text)
    {byte : UInt8} (digit : Decimal.isDigit byte = true) : LineText .integer (text ++ [byte]) := by
  obtain ⟨sign, digits, value, signed, numeral, rfl⟩ := allowed
  exact ⟨sign, digits ++ [byte], _, signed, numeral.snoc digit, List.append_assoc _ _ _⟩

theorem Grammar.LineText.of_worded {kind : LineKind} {text : List UInt8} (worded : kind ≠ .integer)
    (plain : 13 ∉ text) : LineText kind text := by
  cases kind with
  | ok => exact plain
  | error => exact plain
  | integer => exact absurd rfl worded

theorem Begun.of_leadPhase {offset : Nat} {inside : Bool} {byte : UInt8} {phase : Phase}
    (leads : Parser.leadPhase inside byte = some phase) :
    Begun offset inside phase (offset + 1) 0 [byte] := by
  unfold Parser.leadPhase at leads
  by_cases bulk : byte = 36
  · subst bulk
    cases leads
    exact @Begun.lengthStart _ _ .bulk (.inr rfl)
  · rw [if_neg bulk] at leads
    cases nested : inside with
    | true =>
        rw [nested] at leads
        cases leads
    | false =>
        rw [nested, if_neg Bool.false_ne_true] at leads
        by_cases ok : byte = 43
        · subst ok
          cases leads
          exact @Begun.line _ _ .ok [] rfl nofun nofun
        · rw [if_neg ok] at leads
          by_cases error : byte = 45
          · subst error
            cases leads
            exact @Begun.line _ _ .error [] rfl nofun nofun
          · rw [if_neg error] at leads
            by_cases integer : byte = 58
            · subst integer
              cases leads
              exact .integerSign rfl
            · rw [if_neg integer] at leads
              by_cases multibulk : byte = 42
              · subst multibulk
                cases leads
                exact @Begun.lengthStart _ _ .multibulk (.inl rfl)
              · rw [if_neg multibulk] at leads
                cases leads

def Continues (offset : Nat) (bytes : List UInt8) : Parser × Progress → Prop
  | (next, .incomplete) => Partial offset next bytes
  | (next, .complete reply) => IsReply offset bytes reply ∧ next.Idle (offset + bytes.length)
  | (_, .malformed _) => True

namespace Continues

variable {offset : Nat} {parser : Parser} {outer inner : List UInt8}

theorem enter {phase : Phase} (opened : Opened offset parser.parent outer)
    (begun : Begun (offset + outer.length) parser.parent.isSome phase parser.mark parser.length
      inner)
    (position : parser.position = offset + (outer ++ inner).length) :
    Continues offset (outer ++ inner) (parser.enter phase) :=
  ⟨⟨outer, inner, rfl, opened, begun⟩, position⟩

theorem finish {reply : Reply} (opened : Opened offset parser.parent outer)
    (top : parser.parent.isSome = false)
    (grammatical : IsReply (offset + outer.length) inner reply)
    (position : parser.position = offset + (outer ++ inner).length) :
    Continues offset (outer ++ inner) (parser.finish reply) := by
  obtain ⟨none, rfl⟩ := opened.of_top top
  refine ⟨grammatical, ?_⟩
  rw [← position]
  exact Parser.idle_finish parser none reply

theorem finishElement {element : Element} (opened : Opened offset parser.parent outer)
    (grammatical : IsElement (offset + outer.length) inner element)
    (position : parser.position = offset + (outer ++ inner).length) :
    Continues offset (outer ++ inner) (parser.finishElement element) := by
  obtain ⟨stop, phase, mark, length, parent⟩ := parser
  cases opened with
  | top => exact finish .top rfl (.single grammatical) position
  | @multibulk digits content count elements numeral bounded children short =>
      rw [Parser.finishElement_of_open rfl]
      rw [List.length_append, ← Nat.add_assoc] at grammatical
      have extended := children.snoc grammatical
      rw [← Array.toList_push] at extended
      rw [List.append_assoc] at position ⊢
      split
      · rename_i full
        rw [← Array.size_push element] at full
        subst full
        refine ⟨.multibulk numeral bounded extended, rfl, position, rfl⟩
      · rename_i missing
        refine ⟨⟨_, [], (List.append_nil _).symm, ?_, .start⟩, position⟩
        apply Opened.multibulk numeral bounded extended
        rw [Array.size_push]
        omega

theorem finishLength {header : Header} {digits : List UInt8}
    (opened : Opened offset parser.parent outer)
    (allowed : parser.parent.isSome = false ∨ header = .bulk)
    (numeral : Numeral digits parser.length) (bounded : parser.length ≤ header.largest)
    (position : parser.position = offset + (outer ++ lengthLine header digits).length) :
    Continues offset (outer ++ lengthLine header digits) (parser.finishLength header) := by
  obtain ⟨stop, phase, mark, length, parent⟩ := parser
  dsimp only at *
  subst position
  cases header with
  | bulk =>
      have begun : Begun (offset + outer.length) parent.isSome
          (if length = 0 then .bulkCr else .bulkBody)
          (offset + (outer ++ lengthLine .bulk digits).length) length
          (lengthLine .bulk digits ++ []) := by
        rw [List.length_append, ← Nat.add_assoc]
        by_cases empty : length = 0
        · subst empty
          exact @Begun.bulkCr _ _ digits [] numeral bounded
        · rw [if_neg empty]
          have missing : ([] : List UInt8).length + length = length := Nat.zero_add length
          rw [← missing] at numeral bounded
          exact @Begun.bulkBody _ _ digits [] length numeral bounded (Nat.pos_of_ne_zero empty)
      rw [List.append_nil] at begun
      exact ⟨⟨outer, _, rfl, opened, begun⟩, rfl⟩
  | multibulk =>
      obtain rfl : parent = none := by
        rcases allowed with top | impossible
        · exact Option.isNone_iff_eq_none.mp (by rw [← Option.not_isSome, top]; rfl)
        · cases impossible
      cases opened
      rw [Parser.finishLength_multibulk]
      dsimp only
      have line : lengthLine .multibulk digits ++ [] = lengthLine .multibulk digits :=
        List.append_nil _
      split
      · rename_i empty
        subst empty
        refine @finish _ _ [] _ _ .top rfl ?_ rfl
        have whole := @IsReply.multibulk offset digits [] #[] numeral bounded (.nil _)
        rwa [line] at whole
      · rename_i present
        refine ⟨⟨lengthLine .multibulk digits, [], line.symm, ?_, .start⟩, rfl⟩
        rw [← line]
        exact .multibulk numeral bounded (.nil _) (Nat.pos_of_ne_zero present)

theorem lengthDigit {header : Header} {digits : List UInt8} {byte : UInt8}
    (opened : Opened offset parser.parent outer)
    (allowed : parser.parent.isSome = false ∨ header = .bulk)
    (numeral : Numeral digits (parser.length * 10 + Decimal.digitValue byte))
    (mark : parser.mark = offset + outer.length + 1)
    (position : parser.position = offset + (outer ++ headerLead header :: digits).length) :
    Continues offset (outer ++ headerLead header :: digits)
      (parser.feedLengthDigit header byte) := by
  unfold Parser.feedLengthDigit
  cases taken : Parser.accumulate header parser.length byte with
  | error error => trivial
  | ok extended =>
      obtain ⟨rfl, bounded⟩ := Parser.bounded_of_accumulate taken
      refine enter opened ?_ position
      dsimp only
      rw [mark]
      exact .lengthDigits allowed numeral bounded

theorem feed_start (byte : UInt8) (opened : Opened offset parser.parent outer)
    (start : parser.phase = .start) (position : parser.position = offset + outer.length) :
    Continues offset (outer ++ [byte]) (parser.feed byte) := by
  obtain ⟨stop, phase, mark, length, parent⟩ := parser
  dsimp only at *
  subst start position
  have size : offset + outer.length + 1 = offset + (outer ++ [byte]).length := by
    rw [List.length_append]
    rfl
  unfold Parser.feed
  dsimp only
  cases leads : Parser.leadPhase parent.isSome byte with
  | none => trivial
  | some next => exact enter opened (.of_leadPhase leads) size

theorem expect {taken refused : Parser × Progress} {expected : UInt8} (byte : UInt8)
    (fits : Continues offset (outer ++ (inner ++ [expected])) taken)
    (refuses : Continues offset (outer ++ (inner ++ [byte])) refused) :
    Continues offset (outer ++ (inner ++ [byte])) (if byte = expected then taken else refused) := by
  by_cases same : byte = expected
  · rw [if_pos same, same]
    exact fits
  · rw [if_neg same]
    exact refuses

/-- Every byte that is taken carries a partial reply on. -/
theorem feed (byte : UInt8) (opened : Opened offset parser.parent outer)
    (begun : Begun (offset + outer.length) parser.parent.isSome parser.phase parser.mark
      parser.length inner)
    (position : parser.position = offset + (outer ++ inner).length) :
    Continues offset (outer ++ (inner ++ [byte])) (parser.feed byte) := by
  obtain ⟨stop, phase, mark, length, parent⟩ := parser
  dsimp only at *
  have placed : ∀ taken : UInt8, stop + 1 = offset + (outer ++ (inner ++ [taken])).length := by
    intro taken
    simp only [position, List.length_append, List.length_singleton, Nat.add_assoc]
  cases begun with
  | start =>
      rw [List.append_nil] at position
      exact feed_start byte opened rfl position
  | @line kind text top worded plain =>
      unfold Parser.feed
      dsimp only
      by_cases ended : byte = Parser.carriageReturn
      · rw [if_pos ended, ended]
        exact enter opened (.lineLf top (.of_worded worded plain)) (placed _)
      · rw [if_neg ended]
        refine enter opened (.line top worded ?_) (placed byte)
        intro member
        rcases List.mem_append.mp member with earlier | last
        · exact plain earlier
        · exact ended (List.mem_singleton.mp last).symm
  | @lineLf kind text top allowed =>
      unfold Parser.feed
      refine expect byte ?_ trivial
      have size : stop - 1 - (offset + outer.length + 1) = text.length := by
        rw [position]
        simp only [List.length_append, List.length_cons, List.length_nil]
        omega
      have whole := @IsReply.line (offset + outer.length) kind text allowed
      have line : lineLead kind :: text ++ crlf =
          lineLead kind :: text ++ [13] ++ [Parser.lineFeed] := by
        simp only [crlf, Parser.lineFeed, List.append_assoc, List.cons_append, List.nil_append]
      rw [line] at whole
      dsimp only
      rw [size]
      exact finish opened top whole (placed _)
  | integerSign top =>
      unfold Parser.feed
      apply expect byte (enter opened (.integerFirstDigit top) (placed 45))
      dsimp only
      by_cases digit : Decimal.isDigit byte = true
      · rw [if_pos digit]
        have allowed : LineText .integer [byte] :=
          ⟨[], [byte], _, .inl rfl, .digit digit, rfl⟩
        exact enter opened (.integerDigits top allowed) (placed byte)
      · rw [if_neg digit]
        trivial
  | integerFirstDigit top =>
      unfold Parser.feed
      dsimp only
      by_cases digit : Decimal.isDigit byte = true
      · rw [if_pos digit]
        have allowed : LineText .integer [45, byte] :=
          ⟨[45], [byte], _, .inr rfl, .digit digit, rfl⟩
        exact enter opened (.integerDigits top allowed) (placed byte)
      · rw [if_neg digit]
        trivial
  | @integerDigits text top allowed =>
      unfold Parser.feed
      dsimp only
      by_cases digit : Decimal.isDigit byte = true
      · rw [if_pos digit]
        exact enter opened (.integerDigits top (allowed.snoc_integer digit)) (placed byte)
      · rw [if_neg digit]
        have ended := @Begun.lineLf (offset + outer.length) _ .integer _ top allowed
        exact expect byte (enter opened ended (placed _)) trivial
  | @lengthStart header allowed =>
      unfold Parser.feed
      apply expect byte (enter opened (.lengthNil allowed) (placed 45))
      dsimp only
      by_cases digit : Decimal.isDigit byte = true
      · rw [if_pos digit]
        exact lengthDigit opened allowed (.digit digit) rfl (placed byte)
      · rw [if_neg digit]
        trivial
  | @lengthDigits header digits value allowed numeral bounded =>
      unfold Parser.feed
      dsimp only
      by_cases digit : Decimal.isDigit byte = true
      · rw [if_pos digit]
        exact lengthDigit opened allowed (numeral.snoc digit) rfl (placed byte)
      · rw [if_neg digit]
        exact expect byte (enter opened (.lengthLf allowed numeral bounded) (placed _)) trivial
  | @lengthLf header digits value allowed numeral bounded =>
      unfold Parser.feed
      refine expect byte ?_ trivial
      have line : headerLead header :: digits ++ [13] ++ [Parser.lineFeed] =
          lengthLine header digits := by
        simp only [lengthLine, crlf, Parser.lineFeed, List.append_assoc, List.cons_append,
          List.nil_append]
      have ended := placed Parser.lineFeed
      rw [line] at ended ⊢
      exact finishLength opened allowed numeral bounded ended
  | @lengthNil header allowed =>
      unfold Parser.feed
      exact expect byte (enter opened (.lengthNilCr allowed) (placed 49)) trivial
  | @lengthNilCr header allowed =>
      unfold Parser.feed
      exact expect byte (enter opened (.lengthNilLf allowed) (placed _)) trivial
  | @lengthNilLf header allowed =>
      unfold Parser.feed
      cases header with
      | bulk => exact expect byte (finishElement opened .nil (placed _)) trivial
      | multibulk =>
          have top : parent.isSome = false := by
            rcases allowed with top | impossible
            · exact top
            · cases impossible
          exact expect byte (finish opened top .multibulkNil (placed _)) trivial
  | @bulkBody digits body length numeral bounded more =>
      unfold Parser.feed
      dsimp only
      have size : (body ++ [byte]).length + (length - 1) = body.length + length := by
        rw [List.length_append, List.length_singleton]
        omega
      have ended := placed byte
      rw [← size] at numeral bounded
      rw [List.append_assoc] at ended ⊢
      by_cases last : length - 1 = 0
      · rw [if_pos last, last]
        rw [last] at numeral bounded
        exact enter opened (.bulkCr numeral bounded) ended
      · rw [if_neg last]
        exact enter opened (.bulkBody numeral bounded (Nat.pos_of_ne_zero last)) ended
  | @bulkCr digits body numeral bounded =>
      unfold Parser.feed
      exact expect byte (enter opened (.bulkLf numeral bounded) (placed _)) trivial
  | @bulkLf digits body numeral bounded =>
      unfold Parser.feed
      refine expect byte ?_ trivial
      have size : stop - 1 - (offset + outer.length + (lengthLine .bulk digits).length) =
          body.length := by
        rw [position]
        simp only [List.length_append, List.length_cons, List.length_nil]
        omega
      have whole := @IsElement.bulk (offset + outer.length) digits body numeral bounded
      have value : lengthLine .bulk digits ++ body ++ crlf =
          lengthLine .bulk digits ++ body ++ [13] ++ [Parser.lineFeed] := by
        simp only [crlf, Parser.lineFeed, List.append_assoc, List.cons_append, List.nil_append]
      rw [value] at whole
      dsimp only
      rw [size]
      exact finishElement opened whole (placed _)

end Continues

theorem Partial.feed {offset : Nat} {parser : Parser} {bytes : List UInt8}
    (partly : Partial offset parser bytes) (byte : UInt8) :
    Continues offset (bytes ++ [byte]) (parser.feed byte) := by
  obtain ⟨outer, inner, rfl, opened, begun⟩ := partly.split
  rw [List.append_assoc]
  exact Continues.feed byte opened begun partly.position

end Fanout
