import Mathlib.Order.Bounds.Basic
import Fanout.Proofs.Integers
import Fanout.Proofs.Survival

/-!
Length prefixes. While the digits of a length arrive the parser holds exactly the number that they
stand for so far. It never holds more than the header allows, in whatever state it is fed a digit,
so one more digit always fits a word; the first digit that makes the number too large is refused
with that number.
-/

set_option autoImplicit false

namespace Fanout

open Decimal (magnitude digitValue isDigit)

def Phase.header? : Phase → Option Header
  | .lengthStart header | .lengthDigits header | .lengthLf header => some header
  | _ => none

theorem Decimal.magnitude_snoc (digits : List UInt8) (byte : UInt8) :
    magnitude (digits ++ [byte]) = magnitude digits * 10 + digitValue byte := by
  have whole := valueFrom_eq 0 (digits ++ [byte])
  have front := valueFrom_eq 0 digits
  rw [valueFrom_append, front, valueFrom_cons] at whole
  simp only [Nat.zero_mul, Nat.zero_add] at whole
  exact whole.symm

theorem Decimal.digitValue_le {byte : UInt8} (digit : isDigit byte = true) :
    digitValue byte ≤ 9 := by
  unfold isDigit at digit
  simp only [Bool.and_eq_true, decide_eq_true_eq, UInt8.le_iff_toNat_le] at digit
  have upper : byte.toNat ≤ 57 := digit.2
  unfold digitValue
  omega

/-- One digit alone is always allowed, and one digit more than a header allows still fits a word. -/
theorem Header.digits_fit (header : Header) :
    9 < header.largest ∧ header.largest * 10 + 9 < largestWord := by
  cases header <;> simp only [largest, largestBulk, largestMultibulk, largestWord] <;> omega

namespace Parser

variable {parser next middle : Parser} {header : Header} {data : ByteArray} {byte : UInt8}

/-! ### Every state -/

def Bounded (parser : Parser) : Prop :=
  ∀ header, parser.phase.header? = some header → parser.length ≤ header.largest

/-- A length that was refused, with the largest one that its header allows. -/
def Exceeds (length largest : Nat) : Prop :=
  ∃ header : Header, largest = header.largest ∧ header.largest < length ∧
    length ≤ header.largest * 10 + 9

structure Measured (outcome : Parser × Progress) : Prop where
  bounded : outcome.1.Bounded
  refused : ∀ {length largest : Nat},
    outcome.2 = .malformed (.lengthTooLarge length largest) → Exceeds length largest

theorem bounded_of_other (other : parser.phase.header? = none) : parser.Bounded := by
  intro header reading
  rw [other] at reading
  cases reading

theorem Bounded.advance (bounded : parser.Bounded) (position : Nat) :
    Bounded { parser with position := position } :=
  bounded

theorem Bounded.incomplete (bounded : parser.Bounded) : Measured (parser, .incomplete) :=
  ⟨bounded, nofun⟩

theorem Bounded.reject (bounded : parser.Bounded) (byte : UInt8) (offset : Nat) :
    Measured (parser.reject byte offset) :=
  ⟨bounded, nofun⟩

theorem measured_enter {phase : Phase} (other : phase.header? = none) :
    Measured (parser.enter phase) :=
  (bounded_of_other other).incomplete

theorem measured_finish (parser : Parser) (reply : Reply) : Measured (parser.finish reply) :=
  ⟨bounded_of_other rfl, nofun⟩

theorem measured_finishElement (parser : Parser) (element : Element) :
    Measured (parser.finishElement element) := by
  unfold finishElement
  split
  · exact measured_finish _ _
  · dsimp only
    split
    · exact measured_finish _ _
    · exact (bounded_of_other rfl).incomplete

theorem measured_finishLength (parser : Parser) (header : Header) :
    Measured (parser.finishLength header) := by
  cases header with
  | bulk =>
      refine Bounded.incomplete (bounded_of_other ?_)
      dsimp only
      split <;> rfl
  | multibulk =>
      unfold finishLength
      dsimp only
      split
      · exact measured_finish _ _
      · exact (bounded_of_other rfl).incomplete

/-- The check for the header comes first in effect: no sum of an allowed length and a digit is
beyond a word. -/
theorem accumulate_of_bounded {length : Nat} (bounded : length ≤ header.largest)
    (digit : isDigit byte = true) :
    accumulate header length byte =
      if header.largest < length * 10 + digitValue byte then
        .error (.lengthTooLarge (length * 10 + digitValue byte) header.largest)
      else .ok (length * 10 + digitValue byte) := by
  obtain ⟨_, word⟩ := header.digits_fit
  have single := Decimal.digitValue_le digit
  unfold accumulate
  dsimp only
  rw [if_neg (by omega)]

theorem measured_feedLengthDigit (bounded : parser.Bounded) (small : parser.length ≤ header.largest)
    (digit : isDigit byte = true) : Measured (parser.feedLengthDigit header byte) := by
  unfold feedLengthDigit
  rw [accumulate_of_bounded small digit]
  have single := Decimal.digitValue_le digit
  by_cases beyond : header.largest < parser.length * 10 + digitValue byte
  · rw [if_pos beyond]
    refine ⟨bounded, ?_⟩
    intro length largest refused
    cases refused
    exact ⟨header, rfl, beyond, by omega⟩
  · rw [if_neg beyond]
    refine Bounded.incomplete ?_
    intro other same
    cases same
    exact Nat.le_of_not_lt beyond

/-- One byte keeps the length bounded, whatever comes of it. -/
theorem measured_feed (bounded : parser.Bounded) (byte : UInt8) : Measured (parser.feed byte) := by
  have advanced := bounded.advance (parser.position + 1)
  obtain ⟨position, phase, mark, length, parent⟩ := parser
  cases phase with
  | start =>
      simp only [feed]
      split
      · exact Bounded.incomplete fun _ _ => Nat.zero_le _
      · exact Bounded.reject (bounded_of_other rfl) _ _
  | lengthStart header =>
      have small : length ≤ header.largest := bounded header rfl
      simp only [feed]
      split
      · exact measured_enter rfl
      · split
        · rename_i digit
          exact measured_feedLengthDigit advanced small digit
        · exact advanced.reject _ _
  | lengthDigits header =>
      have small : length ≤ header.largest := bounded header rfl
      simp only [feed]
      split
      · rename_i digit
        exact measured_feedLengthDigit advanced small digit
      · split
        · exact Bounded.incomplete advanced
        · exact advanced.reject _ _
  | lengthLf header =>
      simp only [feed]
      split
      · exact measured_finishLength _ header
      · exact advanced.reject _ _
  | lengthNilLf header =>
      cases header <;> simp only [feed] <;> split
      · exact measured_finishElement _ _
      · exact Bounded.reject (bounded_of_other rfl) _ _
      · exact measured_finish _ _
      · exact Bounded.reject (bounded_of_other rfl) _ _
  | bulkBody =>
      simp only [feed]
      split <;> exact measured_enter rfl
  | _ =>
      simp only [feed]
      repeat' split
      all_goals with_reducible first
        | exact measured_enter rfl
        | exact Bounded.reject (bounded_of_other rfl) _ _
        | exact measured_finish _ _
        | exact measured_finishElement _ _

theorem Bounded.skim (bounded : parser.Bounded) (data : ByteArray) :
    (parser.skim data).Bounded := by
  unfold Parser.skim
  split
  · exact bounded
  · refine bounded_of_other ?_
    dsimp only
    split <;> rfl
  · exact bounded

theorem measured_run (bounded : parser.Bounded) (data : ByteArray) :
    Measured (parser.run data) := by
  fun_induction run parser data with
  | case1 parser skimmed inside next step ih =>
      have fed := measured_feed (bounded.skim data) data[skimmed.position]
      rw [step] at fed
      exact ih fed.bounded
  | case2 parser skimmed inside next outcome stops step =>
      have fed := measured_feed (bounded.skim data) data[skimmed.position]
      rwa [step] at fed
  | case3 parser skimmed ended => exact (bounded.skim data).incomplete

inductive Passes (data : ByteArray) (parser : Parser) : Parser → Prop where
  | begun : Passes data parser (parser.skim data)
  | fed {middle next : Parser} (passes : Passes data parser middle)
      (inside : middle.position < data.size)
      (step : middle.feed data[middle.position] = (next, .incomplete)) :
      Passes data parser (next.skim data)

theorem Bounded.passes (bounded : parser.Bounded) (passes : parser.Passes data middle) :
    middle.Bounded := by
  induction passes with
  | begun => exact bounded.skim data
  | @fed middle next passes inside step ih =>
      have fed := measured_feed ih data[middle.position]
      rw [step] at fed
      exact fed.bounded.skim data

theorem Bench.perform_bounded {before after : Bench} (bounded : before.parser.Bounded) {deed : Deed}
    (performed : before.perform deed = .ok after) : after.parser.Bounded := by
  cases deed with
  | append bytes =>
      cases performed
      exact bounded
  | execute =>
      by_cases inside : before.parser.position ≤ before.input.size
      · cases (perform_execute inside).symm.trans performed
        exact (measured_run bounded before.input).bounded
      · unfold perform execute at performed
        rw [if_neg inside] at performed
        cases performed
  | reset =>
      cases performed
      exact bounded_of_other rfl

/-- Whatever was done with a parser, the length it holds is allowed. -/
theorem Bench.performAll_bounded (deeds : List Deed) {before after : Bench}
    (bounded : before.parser.Bounded) (performed : before.performAll deeds = .ok after) :
    after.parser.Bounded := by
  induction deeds generalizing before with
  | nil =>
      cases performed
      exact bounded
  | cons deed deeds ih =>
      unfold performAll at performed ih
      rw [List.foldlM_cons] at performed
      cases step : before.perform deed with
      | error rule =>
          rw [step] at performed
          cases performed
      | ok middle =>
          rw [step] at performed
          exact ih (perform_bounded bounded step) performed

/-! ### The digits of one length -/

def behindDigits (parser : Parser) (header : Header) (digits : List UInt8) : Parser :=
  { parser with
    position := parser.position + 1 + digits.length
    mark := parser.position + 1
    length := magnitude digits
    phase := .lengthDigits header }

variable {digits : List UInt8}

theorem read_behindDigits (idle : parser.phase = .start)
    (allowed : parser.parent = none ∨ header = .bulk) (present : digits ≠ [])
    (decimal : ∀ byte ∈ digits, isDigit byte = true) (fits : magnitude digits ≤ header.largest) :
    parser.read (Grammar.headerLead header :: digits) =
      ⟨parser.behindDigits header digits, [], none⟩ := by
  have value : Decimal.valueFrom 0 digits = magnitude digits := by
    rw [Decimal.valueFrom_eq, Nat.zero_mul, Nat.zero_add]
  rw [read_of_incomplete (feed_headerLead parser header idle allowed)]
  exact read_numeral _ header rfl rfl ⟨present, decimal, value⟩ fits

/-- The digits are all that the length depends on when its line ends. -/
theorem feed_behindDigits (parser : Parser) (header : Header) (digits : List UInt8) :
    (parser.behindDigits header digits).feed carriageReturn =
      ({ parser.behindDigits header digits with
          position := parser.position + 1 + digits.length + 1
          phase := .lengthLf header }, .incomplete) := by
  have ended : isDigit carriageReturn = false := rfl
  simp only [behindDigits, feed, ended, Bool.false_eq_true, if_false, if_true, enter]

/-- A digit too many is consumed, and the length stays what it was before it. -/
theorem feed_beyond (parser : Parser) (fits : magnitude digits ≤ header.largest)
    (digit : isDigit byte = true) (beyond : header.largest < magnitude (digits ++ [byte])) :
    (parser.behindDigits header digits).feed byte =
      ({ parser.behindDigits header digits with
          position := parser.position + 1 + digits.length + 1 },
        .malformed (.lengthTooLarge (magnitude (digits ++ [byte])) header.largest)) := by
  have refused : accumulate header (magnitude digits) byte =
      .error (.lengthTooLarge (magnitude (digits ++ [byte])) header.largest) := by
    rw [Decimal.magnitude_snoc] at beyond ⊢
    rw [accumulate_of_bounded fits digit, if_pos beyond]
  unfold feed behindDigits
  dsimp only
  rw [if_pos digit]
  unfold feedLengthDigit
  dsimp only
  rw [refused]

/-- Some digit is the first one that makes the number too large, and it is not the first digit of
all. -/
theorem exists_first_beyond (decimal : ∀ byte ∈ digits, isDigit byte = true)
    (beyond : header.largest < magnitude digits) :
    ∃ front byte back, digits = front ++ byte :: back ∧ front ≠ [] ∧
      magnitude front ≤ header.largest ∧ header.largest < magnitude (front ++ [byte]) := by
  induction digits using List.reverseRecOn with
  | nil => exact absurd beyond (Nat.not_lt_zero _)
  | append_singleton front byte ih =>
      by_cases earlier : header.largest < magnitude front
      · have inner := fun other member => decimal other (List.mem_append_left _ member)
        obtain ⟨first, middle, back, rfl, rest⟩ := ih inner earlier
        exact ⟨first, middle, back ++ [byte], by rw [List.append_assoc]; rfl, rest⟩
      · refine ⟨front, byte, [], rfl, ?_, Nat.le_of_not_lt earlier, beyond⟩
        rintro rfl
        have single := Decimal.digitValue_le (decimal byte List.mem_cons_self)
        obtain ⟨allowed, _⟩ := header.digits_fit
        rw [Decimal.magnitude_snoc] at beyond
        have zero : magnitude [] = 0 := rfl
        omega

theorem magnitude_mono {front : List UInt8} (begins : front <+: digits) :
    magnitude front ≤ magnitude digits := by
  obtain ⟨back, rfl⟩ := begins
  have whole := Decimal.valueFrom_eq 0 (front ++ back)
  have first := Decimal.valueFrom_eq 0 front
  rw [Decimal.valueFrom_append, first] at whole
  simp only [Nat.zero_mul, Nat.zero_add] at whole
  rw [← whole]
  exact Decimal.le_valueFrom _ _

/-- How a length prefix is taken: `outcome` is what comes of its header, its digits and `rest`. -/
structure Takes (parser : Parser) (header : Header) (digits rest : List UInt8)
    (outcome : Except Misuse Reading) : Prop where
  /-- A length that is allowed is there when its line ends. -/
  fits : magnitude digits ≤ header.largest →
    outcome = .ok ((parser.behindDigits header digits).read rest) ∧
      (parser.behindDigits header digits).feed carriageReturn =
        ({ parser.behindDigits header digits with
            position := parser.position + 1 + digits.length + 1
            phase := .lengthLf header }, .incomplete)
  /-- Any other fails at the first digit with which the number is too large. -/
  beyond : header.largest < magnitude digits →
    ∃ count failed, IsLeast { count | header.largest < magnitude (digits.take count) } count ∧
      outcome = .ok ⟨failed, [],
        some (.lengthTooLarge (magnitude (digits.take count)) header.largest)⟩ ∧
      failed.position = parser.position + 1 + count ∧
      failed.length = magnitude (digits.take (count - 1))

theorem read_takes (idle : parser.phase = .start)
    (allowed : parser.parent = none ∨ header = .bulk) (present : digits ≠ [])
    (decimal : ∀ byte ∈ digits, isDigit byte = true) (rest : List UInt8) :
    Takes parser header digits rest
      (.ok (parser.read (Grammar.headerLead header :: (digits ++ rest)))) := by
  constructor
  · intro fits
    have reads := read_behindDigits idle allowed present decimal fits
    rw [← List.cons_append, read_append_quiet reads]
    exact ⟨rfl, feed_behindDigits parser header digits⟩
  · intro beyond
    obtain ⟨front, byte, back, rfl, some', fits, exceeds⟩ := exists_first_beyond decimal beyond
    have digit := decimal byte (List.mem_append_right _ List.mem_cons_self)
    have inner := fun other member => decimal other (List.mem_append_left _ member)
    have taken : (front ++ byte :: back).take (front.length + 1) = front ++ [byte] := by
      rw [List.append_cons, List.take_append_of_le_length (by simp),
        List.take_of_length_le (by simp)]
    have before : (front ++ byte :: back).take front.length = front := List.take_left
    refine ⟨front.length + 1,
      { parser.behindDigits header front with
        position := parser.position + 1 + front.length + 1 }, ⟨?_, ?_⟩, ?_, ?_, ?_⟩
    · rw [Set.mem_ofPred_eq, taken]
      exact exceeds
    · intro count sooner
      by_contra fewer
      have begins : (front ++ byte :: back).take count <+: front := by
        rw [List.take_append_of_le_length (by omega)]
        exact List.take_prefix count front
      exact absurd (Nat.lt_of_lt_of_le sooner (magnitude_mono begins)) (Nat.not_lt_of_le fits)
    · have reads := read_behindDigits idle allowed some' inner fits
      have whole : Grammar.headerLead header :: (front ++ byte :: back ++ rest) =
          (Grammar.headerLead header :: front) ++ byte :: (back ++ rest) := by simp
      rw [whole, read_append_quiet reads, read_of_malformed (feed_beyond parser fits digit exceeds),
        taken]
    · rfl
    · rw [Nat.add_sub_cancel, before]
      rfl

/-- Lengths are bounded exactly. Whatever was done with a parser before, also after errors: the
digits behind a header are taken for their number however the data is cut, and a number that the
header does not allow fails at the first digit that exceeds it. In every run the length stays within
what its header allows, one more digit never comes near the end of a word, and what is reported is
never the largest word. -/
theorem prefix_bounded (deeds : List Deed) {bench : Bench}
    (performed : Bench.performAll {} deeds = .ok bench) :
    (∀ (header : Header) (digits rest : List UInt8) (data : ByteArray) (cuts : List Nat),
      bench.parser.phase = .start → (bench.parser.parent = none ∨ header = .bulk) →
      digits ≠ [] → (∀ byte ∈ digits, isDigit byte = true) →
      bench.parser.unread data = Grammar.headerLead header :: (digits ++ rest) →
      cuts.Pairwise (· ≤ ·) → (∀ stop ∈ cuts, bench.parser.position ≤ stop) →
      Takes bench.parser header digits rest
        (bench.parser.drainEach ((cuts.map fun stop => data.extract 0 stop) ++ [data]))) ∧
    (∀ (data : ByteArray) (middle : Parser) (header : Header), bench.parser.Passes data middle →
      middle.phase.header? = some header → middle.length ≤ header.largest ∧
        ∀ byte, isDigit byte = true → middle.length * 10 + digitValue byte < largestWord) ∧
    ∀ (data : ByteArray) (next : Parser) (length largest : Nat),
      bench.parser.execute data = .ok (next, .malformed (.lengthTooLarge length largest)) →
      Exceeds length largest ∧ length < largestWord := by
  have bounded : bench.parser.Bounded :=
    @Bench.performAll_bounded deeds {} _ (bounded_of_other rfl) performed
  refine ⟨?_, ?_, ?_⟩
  · intro header digits rest data cuts idle allowed present decimal ahead sorted later
    have inside : bench.parser.position < data.size := by
      by_contra outside
      rw [unread_of_le (Nat.le_of_not_lt outside)] at ahead
      cases ahead
    have reachable : ∀ stop ∈ cuts, bench.parser.position ≤ (data.extract 0 stop).size := by
      intro stop member
      have reached := later stop member
      rw [ByteArray.size_extract]
      omega
    rw [drainEach_eq_read (sound_of_phase (by rw [idle]; nofun)) sorted reachable
      (Nat.le_of_lt inside), ahead]
    exact read_takes idle allowed present decimal rest
  · intro data middle header passes reading
    have small := bounded.passes passes header reading
    refine ⟨small, ?_⟩
    intro byte digit
    obtain ⟨_, word⟩ := header.digits_fit
    have single := Decimal.digitValue_le digit
    omega
  · intro data next length largest executed
    unfold execute at executed
    split at executed
    · have ran := Except.ok.inj executed
      have measured := measured_run bounded data
      rw [ran] at measured
      obtain ⟨header, same, beyond, near⟩ := measured.refused rfl
      obtain ⟨_, word⟩ := header.digits_fit
      exact ⟨⟨header, same, beyond, near⟩, by omega⟩
    · cases executed

def overlong : List UInt8 := [48, 48, 53, 51, 54, 56, 55, 48, 57, 49, 51]

def overlongInput : ByteArray := ⟨(63 :: 36 :: overlong).toArray⟩

theorem prefix_bounded_overlong :
    ∃ failed, (run {} ⟨#[63]⟩).1.drainEach
        ([1, 2, 4, 12].map (fun stop => overlongInput.extract 0 stop) ++ [overlongInput]) =
        .ok ⟨failed, [], some (.lengthTooLarge 536870913 536870912)⟩ ∧
      failed.position = 13 ∧ failed.length = 53687091 := by
  have performed : Bench.performAll {} [.append ⟨#[63]⟩, .execute] =
      .ok ⟨(run {} ⟨#[63]⟩).1, ⟨#[63]⟩⟩ := rfl
  obtain ⟨taken, _, _⟩ := prefix_bounded _ performed
  have takes := taken .bulk overlong [] overlongInput [1, 2, 4, 12]
    (by decide +kernel) (.inr rfl) (by decide) (by decide +kernel) (by decide +kernel) (by decide)
    (by decide +kernel)
  obtain ⟨count, failed, ⟨exceeds, least⟩, drained, position, length⟩ :=
    takes.beyond (by decide +kernel)
  have sooner : ∀ shorter < 11, ¬Header.bulk.largest < magnitude (overlong.take shorter) := by
    decide +kernel
  have last : count = 11 := by
    have exceeded : Header.bulk.largest < magnitude (overlong.take 11) := by decide +kernel
    have most : count ≤ 11 := least exceeded
    by_contra other
    exact sooner count (by omega) exceeds
  subst last
  have value : magnitude (overlong.take 11) = 536870913 := by decide +kernel
  rw [value] at drained
  have begun : (run {} ⟨#[63]⟩).1.position = 1 := by decide +kernel
  rw [begun] at position
  refine ⟨failed, drained, position, length.trans ?_⟩
  decide +kernel

end Parser

end Fanout
