import Fanout.Proofs.Partial

/-!
Whatever a parser has read of a reply can still be completed: a line is ended, a bulk value is
filled up, and an array gets nil values for its missing elements.
-/

set_option autoImplicit false

namespace Fanout

open Grammar

namespace Grammar

def nilElements (count : Nat) : List UInt8 := (List.replicate count (nilLine .bulk)).flatten

theorem areElements_nil (offset count : Nat) :
    AreElements offset (nilElements count) (List.replicate count .nil) := by
  induction count generalizing offset with
  | zero => exact .nil offset
  | succ count ih => exact .cons .nil (ih _)

theorem multibulk_fill {offset count : Nat} {digits content : List UInt8}
    {elements : Array Element} (numeral : Numeral digits count)
    (bounded : count ≤ Header.multibulk.largest)
    (children : AreElements (offset + (lengthLine .multibulk digits).length) content
      elements.toList)
    (short : elements.size ≤ count) :
    ∃ reply, IsReply offset
      (lengthLine .multibulk digits ++ content ++ nilElements (count - elements.size)) reply := by
  have filled := children.append (areElements_nil _ (count - elements.size))
  have whole : elements.toList ++ List.replicate (count - elements.size) Element.nil =
      (elements ++ Array.replicate (count - elements.size) Element.nil).toList := by
    rw [Array.toList_append, Array.toList_replicate]
  have size : (elements ++ Array.replicate (count - elements.size) Element.nil).size = count := by
    rw [Array.size_append, Array.size_replicate]
    omega
  rw [whole] at filled
  rw [← size] at numeral bounded
  rw [List.append_assoc]
  exact ⟨_, .multibulk numeral bounded filled⟩

end Grammar

/-- What completes a value that is begun: it becomes an element, or a reply that is none. -/
def Completes (offset : Nat) (nested : Bool) (bytes rest : List UInt8) : Prop :=
  (∃ element, IsElement offset (bytes ++ rest) element) ∨
    (nested = false ∧ ∃ reply, IsReply offset (bytes ++ rest) reply)

namespace Begun

variable {offset : Nat} {nested : Bool}

theorem completes_nil {header : Header} (allowed : nested = false ∨ header = .bulk)
    {bytes rest : List UInt8} (line : bytes ++ rest = nilLine header) :
    Completes offset nested bytes rest := by
  unfold Completes
  rw [line]
  cases header with
  | bulk => exact .inl ⟨_, .nil⟩
  | multibulk =>
      rcases allowed with top | impossible
      · exact .inr ⟨top, _, .multibulkNil⟩
      · cases impossible

theorem completes_line {kind : LineKind} {text bytes rest : List UInt8} (top : nested = false)
    (allowed : LineText kind text) (line : bytes ++ rest = lineLead kind :: text ++ crlf) :
    Completes offset nested bytes rest := by
  unfold Completes
  rw [line]
  exact .inr ⟨top, _, .line allowed⟩

theorem completes_bulk {digits body bytes rest : List UInt8} (numeral : Numeral digits body.length)
    (bounded : body.length ≤ Header.bulk.largest)
    (value : bytes ++ rest = lengthLine .bulk digits ++ body ++ crlf) :
    Completes offset nested bytes rest := by
  unfold Completes
  rw [value]
  exact .inl ⟨_, .bulk numeral bounded⟩

theorem completes_length {header : Header} {digits bytes ending : List UInt8} {value : Nat}
    (allowed : nested = false ∨ header = .bulk) (numeral : Numeral digits value)
    (bounded : value ≤ header.largest) (line : bytes ++ ending = lengthLine header digits) :
    ∃ rest, Completes offset nested bytes rest := by
  cases header with
  | bulk =>
      have size : (List.replicate value (0 : UInt8)).length = value := List.length_replicate
      rw [← size] at numeral bounded
      refine ⟨ending ++ List.replicate value 0 ++ crlf, completes_bulk numeral bounded ?_⟩
      rw [← line]
      simp only [List.append_assoc]
  | multibulk =>
      rcases allowed with top | impossible
      · obtain ⟨reply, whole⟩ := @multibulk_fill offset value digits [] #[] numeral bounded
          (.nil _) (Nat.zero_le value)
        refine ⟨ending ++ nilElements value, .inr ⟨top, reply, ?_⟩⟩
        rw [← List.append_assoc, line]
        rwa [List.append_nil] at whole
      · cases impossible

theorem completes {phase : Phase} {mark length : Nat} {bytes : List UInt8}
    (begun : Begun offset nested phase mark length bytes) :
    ∃ rest, Completes offset nested bytes rest := by
  cases begun with
  | start => exact ⟨nilLine .bulk, completes_nil (.inr rfl) rfl⟩
  | @line kind text top worded plain =>
      exact ⟨crlf, completes_line top (.of_worded worded plain) rfl⟩
  | @lineLf kind text top allowed =>
      refine ⟨[10], completes_line top allowed ?_⟩
      simp only [crlf, List.append_assoc, List.cons_append, List.nil_append]
  | integerSign top =>
      have zero : LineText .integer [48] := ⟨[], [48], _, .inl rfl, .digit rfl, rfl⟩
      exact ⟨48 :: crlf, completes_line top zero rfl⟩
  | integerFirstDigit top =>
      have zero : LineText .integer [45, 48] := ⟨[45], [48], _, .inr rfl, .digit rfl, rfl⟩
      exact ⟨48 :: crlf, completes_line top zero rfl⟩
  | integerDigits top allowed => exact ⟨crlf, completes_line top allowed rfl⟩
  | @lengthStart header allowed =>
      exact ⟨[45, 49] ++ crlf, completes_nil allowed rfl⟩
  | lengthDigits allowed numeral bounded => exact completes_length allowed numeral bounded rfl
  | lengthLf allowed numeral bounded =>
      apply @completes_length _ _ _ _ _ [10] _ allowed numeral bounded
      simp only [lengthLine, crlf, List.append_assoc, List.cons_append, List.nil_append]
  | lengthNil allowed => exact ⟨49 :: crlf, completes_nil allowed rfl⟩
  | lengthNilCr allowed => exact ⟨crlf, completes_nil allowed rfl⟩
  | lengthNilLf allowed => exact ⟨[10], completes_nil allowed rfl⟩
  | @bulkBody digits body length numeral bounded more =>
      have size : (body ++ List.replicate length (0 : UInt8)).length = body.length + length := by
        rw [List.length_append, List.length_replicate]
      rw [← size] at numeral bounded
      refine ⟨List.replicate length 0 ++ crlf, completes_bulk numeral bounded ?_⟩
      simp only [List.append_assoc]
  | bulkCr numeral bounded =>
      exact ⟨crlf, completes_bulk numeral bounded rfl⟩
  | bulkLf numeral bounded =>
      refine ⟨[10], completes_bulk numeral bounded ?_⟩
      simp only [crlf, List.append_assoc, List.cons_append, List.nil_append]

end Begun

theorem Opened.completes {offset : Nat} {parent : Option OpenMultibulk} {outer inner : List UInt8}
    (opened : Opened offset parent outer) {element : Element}
    (grammatical : IsElement (offset + outer.length) inner element) :
    ∃ rest reply, IsReply offset (outer ++ inner ++ rest) reply := by
  cases opened with
  | top =>
      refine ⟨[], .single element, ?_⟩
      rw [List.append_nil]
      exact .single grammatical
  | @multibulk digits content count elements numeral bounded children short =>
      rw [List.length_append, ← Nat.add_assoc] at grammatical
      have extended := children.snoc grammatical
      rw [← Array.toList_push] at extended
      have fits : (elements.push element).size ≤ count := by
        rw [Array.size_push]
        exact short
      obtain ⟨reply, whole⟩ := multibulk_fill numeral bounded extended fits
      rw [← List.append_assoc] at whole
      exact ⟨_, reply, whole⟩

/-- A partial reply is the beginning of a reply. -/
theorem Partial.completes {offset : Nat} {parser : Parser} {bytes : List UInt8}
    (partly : Partial offset parser bytes) :
    ∃ rest reply, IsReply offset (bytes ++ rest) reply := by
  obtain ⟨outer, inner, rfl, opened, begun⟩ := partly.split
  obtain ⟨rest, ⟨element, whole⟩ | ⟨top, reply, whole⟩⟩ := begun.completes
  · obtain ⟨more, reply, whole⟩ := opened.completes whole
    refine ⟨rest ++ more, reply, ?_⟩
    rwa [← List.append_assoc, List.append_assoc outer]
  · obtain ⟨_, rfl⟩ := opened.of_top top
    exact ⟨rest, reply, whole⟩

end Fanout
