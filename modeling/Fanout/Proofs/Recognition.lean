import Fanout.Proofs.Completion
import Fanout.Proofs.Draining

/-!
The parser recognizes the grammar: it takes the longest beginning of its input that can still
become a stream, delivers the replies in it, and fails at the byte behind it.
-/

set_option autoImplicit false

namespace Fanout

open Grammar

namespace Parser

theorem Idle.isIdle {parser : Parser} {offset : Nat} (idle : parser.Idle offset) :
    parser.isIdle = true := by
  simp only [Parser.isIdle, idle.phase, idle.parent, decide_true, Option.isNone_none, Bool.and_self]

/-- What was read without an error is whole replies and the beginning of one more. -/
theorem read_partial {parser last : Parser} {offset : Nat} {begun data : List UInt8}
    {replies : List Reply} (partly : Partial offset parser begun)
    (reads : parser.read data = ⟨last, replies, none⟩) :
    ∃ whole part, begun ++ data = whole ++ part ∧ IsStream offset whole replies ∧
      Partial (offset + whole.length) last part := by
  induction data generalizing parser offset begun replies with
  | nil =>
      cases reads
      refine ⟨[], begun, List.append_nil _, .nil offset, ?_⟩
      exact partly
  | cons byte data ih =>
      have step := partly.feed byte
      cases fed : parser.feed byte with
      | mk next progress =>
          rw [fed] at step
          cases progress with
          | incomplete =>
              rw [read_of_incomplete fed] at reads
              obtain ⟨whole, part, bytes, stream, partial'⟩ := ih step reads
              rw [List.append_assoc] at bytes
              exact ⟨whole, part, bytes, stream, partial'⟩
          | complete reply =>
              rw [read_of_complete fed] at reads
              obtain ⟨grammatical, idle⟩ := step
              cases rest : next.read data with
              | mk final later failed =>
                  rw [rest] at reads
                  cases reads
                  obtain ⟨whole, part, bytes, stream, partial'⟩ := ih (.of_idle idle) rest
                  rw [List.nil_append] at bytes
                  refine ⟨begun ++ [byte] ++ whole, part, ?_, .cons grammatical stream, ?_⟩
                  · rw [List.append_assoc (begun ++ [byte]), ← bytes, List.append_assoc]
                    rfl
                  · rwa [List.length_append, ← Nat.add_assoc]
          | malformed error =>
              rw [read_of_malformed fed] at reads
              cases reads

theorem read_failed {parser : Parser} {data : List UInt8} {error : ParseError}
    (failed : (parser.read data).error = some error) :
    ∃ taken byte rest last, data = taken ++ byte :: rest ∧
      parser.read taken = ⟨last, (parser.read data).replies, none⟩ ∧
      last.feed byte = ((parser.read data).parser, .malformed error) := by
  induction data generalizing parser with
  | nil => cases failed
  | cons byte data ih =>
      cases fed : parser.feed byte with
      | mk next progress =>
          cases progress with
          | incomplete =>
              rw [read_of_incomplete fed] at failed ⊢
              obtain ⟨taken, bad, rest, last, bytes, fine, rejects⟩ := ih failed
              refine ⟨byte :: taken, bad, rest, last, ?_, ?_, rejects⟩
              · rw [bytes]
                rfl
              · rw [read_of_incomplete fed, fine]
          | complete reply =>
              rw [read_of_complete fed] at failed ⊢
              obtain ⟨taken, bad, rest, last, bytes, fine, rejects⟩ := ih failed
              refine ⟨byte :: taken, bad, rest, last, ?_, ?_, rejects⟩
              · rw [bytes]
                rfl
              · rw [read_of_complete fed, fine]
                rfl
          | malformed other =>
              rw [read_of_malformed fed] at failed ⊢
              cases failed
              exact ⟨[], byte, data, parser, rfl, rfl, fed⟩

/-- Only this byte, at this place, is named as one that does not fit. -/
def Names (byte : UInt8) (offset : Nat) (outcome : Parser × Progress) : Prop :=
  ∀ phase named place, outcome.2 = .malformed (.unexpectedByte phase named place) →
    named = byte ∧ place = offset

section Names

variable (parser : Parser) (byte : UInt8) (offset : Nat)

theorem names_enter (phase : Phase) : Names byte offset (parser.enter phase) := nofun

theorem names_finish (reply : Reply) : Names byte offset (parser.finish reply) := nofun

theorem names_reject : Names byte offset (parser.reject byte offset) := by
  rintro _ _ _ ⟨⟩
  exact ⟨rfl, rfl⟩

theorem names_finishElement (element : Element) :
    Names byte offset (parser.finishElement element) := by
  intro phase named place refused
  have fine := error_finishElement parser element
  rw [refused] at fine
  cases fine

theorem names_finishLength (header : Header) :
    Names byte offset (parser.finishLength header) := by
  cases header with
  | bulk => exact nofun
  | multibulk =>
      unfold finishLength
      dsimp only
      split <;> exact nofun

theorem names_feedLengthDigit (header : Header) :
    Names byte offset (parser.feedLengthDigit header byte) := by
  unfold feedLengthDigit accumulate
  dsimp only
  by_cases huge : largestWord < parser.length * 10 + Decimal.digitValue byte
  · rw [if_pos huge]
    exact nofun
  · rw [if_neg huge]
    split
    · exact nofun
    · rename_i refused
      split at refused
      · cases refused
        exact nofun
      · cases refused

theorem names_feed : Names byte parser.position (parser.feed byte) := by
  obtain ⟨position, phase, mark, length, parent⟩ := parser
  cases phase with
  | start =>
      simp only [feed]
      split
      · exact names_enter _ _ _ _
      · exact names_reject _ _ _
  | bulkBody => exact names_enter _ _ _ _
  | lengthNilLf header =>
      cases header <;> simp only [feed] <;> split
      · exact names_finishElement _ _ _ _
      · exact names_reject _ _ _
      · exact names_finish _ _ _ _
      · exact names_reject _ _ _
  | _ =>
      simp only [feed]
      repeat' split
      all_goals with_reducible first
        | exact names_enter _ _ _ _
        | exact names_reject _ _ _
        | exact names_finish _ _ _ _
        | exact names_finishElement _ _ _ _
        | exact names_finishLength _ _ _ _
        | exact names_feedLengthDigit _ _ _ _

end Names

end Parser

namespace Grammar

variable {bytes : List UInt8} {replies : List Reply}

/-- The same replies never fill more bytes. -/
theorem IsStream.rest_nil {rest : List UInt8} (short : IsStream 0 bytes replies)
    (long : IsStream 0 (bytes ++ rest) replies) : rest = [] := by
  obtain ⟨middle, between, first⟩ := Parser.read_stream Parser.idle_new short
  obtain ⟨last, ends, whole⟩ := Parser.read_stream Parser.idle_new long
  rw [Parser.read_append_of_fine first] at whole
  cases reads : middle.read rest with
  | mk final more error =>
      rw [reads] at whole
      obtain ⟨same, nothing, fine⟩ := Reading.mk.inj whole
      dsimp only at same nothing fine
      subst same fine
      obtain rfl : more = [] := List.append_right_eq_self.mp nothing
      obtain ⟨front, part, joined, empty, partly⟩ := Parser.read_partial (.of_idle between) reads
      cases empty
      rwa [partly.eq_nil_of_isIdle ends.isIdle] at joined

theorem IsStream.eq_of_prefix {left right : List UInt8} (first : IsStream 0 left replies)
    (second : IsStream 0 right replies) (begins : left <+: bytes) (begins' : right <+: bytes) :
    left = right := by
  rcases List.prefix_or_prefix_of_prefix begins begins' with ⟨rest, rfl⟩ | ⟨rest, rfl⟩
  · rw [first.rest_nil second, List.append_nil]
  · rw [second.rest_nil first, List.append_nil]

/-- Bytes can still become a stream just when they are read without an error. -/
theorem viable_iff : Viable bytes ↔ (Parser.read {} bytes).error = none := by
  constructor
  · rintro ⟨rest, replies, stream⟩
    obtain ⟨last, _, whole⟩ := Parser.read_stream Parser.idle_new stream
    rw [Parser.read_append] at whole
    cases failed : (Parser.read {} bytes).error with
    | none => rfl
    | some error =>
        rw [Reading.resume_of_error failed] at whole
        rw [whole] at failed
        cases failed
  · intro fine
    cases reads : Parser.read {} bytes with
    | mk last replies error =>
        rw [reads] at fine
        cases fine
        obtain ⟨whole, part, joined, stream, partly⟩ :=
          Parser.read_partial (.of_idle Parser.idle_new) reads
        obtain ⟨rest, reply, completed⟩ := partly.completes
        have one := IsStream.cons completed (.nil _)
        refine ⟨rest ++ [], replies ++ [reply], ?_⟩
        rw [List.nil_append] at joined
        rw [joined, List.append_assoc, ← List.append_assoc part]
        exact stream.append one

theorem Viable.of_prefix {other : List UInt8} (viable : Viable bytes) (begins : other <+: bytes) :
    Viable other := by
  obtain ⟨more, rfl⟩ := begins
  obtain ⟨rest, replies, stream⟩ := viable
  rw [List.append_assoc] at stream
  exact ⟨more ++ rest, replies, stream⟩

theorem longestViable_of_malformed {taken rest : List UInt8} {byte : UInt8} {last next : Parser}
    {error : ParseError} (reads : Parser.read {} taken = ⟨last, replies, none⟩)
    (rejects : last.feed byte = (next, .malformed error)) :
    LongestViable (taken ++ byte :: rest) taken := by
  have hopeless : ¬Viable (taken ++ [byte]) := by
    rw [viable_iff, Parser.read_append_of_fine reads, Parser.read_of_malformed rejects]
    exact Option.some_ne_none _
  constructor
  · exact List.prefix_append _ _
  · rw [viable_iff, reads]
  · intro other begins viable
    apply Nat.le_of_not_lt
    intro longer
    have longer' : (taken ++ [byte]).length ≤ other.length := by
      rw [List.length_append, List.length_singleton]
      omega
    have begins' : taken ++ [byte] <+: taken ++ byte :: rest := ⟨rest, by
      rw [List.append_assoc]
      rfl⟩
    exact hopeless (viable.of_prefix (List.prefix_of_prefix_length_le begins' begins longer'))

theorem longestViable_self (viable : Viable bytes) : LongestViable bytes bytes :=
  ⟨List.prefix_refl _, viable, fun _ begins _ => begins.length_le⟩

theorem front_of_stream {whole part : List UInt8} (stream : IsStream 0 whole replies)
    (all : (Parser.read {} (whole ++ part)).replies = replies) : Front (whole ++ part) replies := by
  refine ⟨whole, part, rfl, stream, ?_⟩
  rintro first reply grammatical ⟨rest, rfl⟩
  rw [← Nat.zero_add whole.length] at grammatical
  have one := IsStream.cons grammatical (.nil _)
  obtain ⟨middle, _, longer⟩ := Parser.read_stream Parser.idle_new (stream.append one)
  rw [List.append_nil] at longer
  rw [← List.append_assoc, Parser.read_append_of_fine longer] at all
  have counts := congrArg List.length all
  simp only [List.length_append, List.length_singleton] at counts
  omega

theorem front_of_read {last : Parser} (reads : Parser.read {} bytes = ⟨last, replies, none⟩) :
    Front bytes replies := by
  obtain ⟨whole, part, joined, stream, _⟩ := Parser.read_partial (.of_idle Parser.idle_new) reads
  rw [List.nil_append] at joined
  subst joined
  apply front_of_stream stream
  rw [reads]

theorem isIdle_iff {last : Parser} (reads : Parser.read {} bytes = ⟨last, replies, none⟩) :
    last.isIdle = true ↔ ∃ replies, IsStream 0 bytes replies := by
  constructor
  · intro idle
    obtain ⟨whole, part, joined, stream, partly⟩ :=
      Parser.read_partial (.of_idle Parser.idle_new) reads
    rw [List.nil_append, partly.eq_nil_of_isIdle idle, List.append_nil] at joined
    rw [joined]
    exact ⟨replies, stream⟩
  · rintro ⟨others, stream⟩
    obtain ⟨final, ends, whole⟩ := Parser.read_stream Parser.idle_new stream
    rw [reads] at whole
    cases whole
    exact ends.isIdle

structure Blames (bytes front : List UInt8) (reading : Reading) (error : ParseError) : Prop where
  position : reading.parser.position = front.length + 1
  named : ∀ phase byte offset, error = .unexpectedByte phase byte offset →
    offset = front.length ∧ bytes[front.length]? = some byte

theorem blames_of_malformed {taken rest : List UInt8} {byte : UInt8} {last : Parser}
    {error : ParseError} {reading : Reading} (reads : Parser.read {} taken = ⟨last, replies, none⟩)
    (rejects : last.feed byte = (reading.parser, .malformed error)) :
    Blames (taken ++ byte :: rest) taken reading error := by
  have position : last.position = taken.length := by
    have fine : (Parser.read {} taken).error = none := by rw [reads]
    have moved := Parser.position_read fine
    rw [reads] at moved
    exact moved.trans (Nat.zero_add _)
  constructor
  · have moved := Parser.position_feed last byte
    rw [rejects] at moved
    rw [← position]
    exact moved
  · rintro phase named offset rfl
    obtain ⟨rfl, rfl⟩ := Parser.names_feed last byte phase named offset (by rw [rejects])
    refine ⟨position, ?_⟩
    rw [List.getElem?_append_right (Nat.le_refl _), Nat.sub_self]
    rfl

theorem exists_front (bytes : List UInt8) :
    ∃ front, LongestViable bytes front ∧ Front front (Parser.read {} bytes).replies ∧
      ∀ error, (Parser.read {} bytes).error = some error →
        Blames bytes front (Parser.read {} bytes) error := by
  cases failed : (Parser.read {} bytes).error with
  | none =>
      have reads : Parser.read {} bytes =
          ⟨(Parser.read {} bytes).parser, (Parser.read {} bytes).replies, none⟩ := by
        rw [← failed]
      exact ⟨bytes, longestViable_self (viable_iff.mpr failed), front_of_read reads, nofun⟩
  | some error =>
      obtain ⟨taken, byte, rest, last, joined, reads, rejects⟩ := Parser.read_failed failed
      refine ⟨taken, ?_, front_of_read reads, ?_⟩
      · rw [joined]
        exact longestViable_of_malformed reads rejects
      · rintro other ⟨⟩
        have blames := @blames_of_malformed _ _ rest _ _ _ _ reads rejects
        rwa [← joined] at blames

/-- The replies that are read are all whole ones at the front, also before a byte that does not
fit. -/
theorem front_read (bytes : List UInt8) : Front bytes (Parser.read {} bytes).replies := by
  obtain ⟨_, ⟨begins, _, _⟩, ⟨whole, part, rfl, stream, _⟩, _⟩ := exists_front bytes
  obtain ⟨rest, joined⟩ := begins
  rw [List.append_assoc] at joined
  rw [← joined] at stream ⊢
  exact front_of_stream stream rfl

theorem delivered_iff {whole : List UInt8} (stream : IsStream 0 whole replies)
    (begins : whole <+: bytes) (stop : Nat) :
    replies <+: (Parser.read {} (bytes.take stop)).replies ↔ whole.length ≤ stop := by
  constructor
  · rintro ⟨later, delivered⟩
    obtain ⟨_, ⟨begins', _, _⟩, ⟨front, part, rfl, stream', _⟩, _⟩ := exists_front (bytes.take stop)
    rw [← delivered] at stream'
    obtain ⟨left, right, rfl, first⟩ := stream'.split
    rw [List.append_assoc] at begins'
    have earlier := (List.prefix_append left _).trans begins'
    rw [stream.eq_of_prefix first begins (earlier.trans (List.take_prefix stop bytes))]
    exact Nat.le_trans earlier.length_le (List.length_take_le stop bytes)
  · intro inside
    obtain ⟨rest, cut⟩ := List.prefix_take_iff.mpr ⟨begins, inside⟩
    obtain ⟨last, _, reads⟩ := Parser.read_stream Parser.idle_new stream
    rw [← cut, Parser.read_append_of_fine reads]
    exact List.prefix_append _ _

end Grammar

/-- A new parser recognizes the grammar. It delivers the replies of the longest beginning that can
become a stream, each as soon as its last byte is there; it fails just when the data cannot become
a stream, at the first byte that shows it; otherwise it is idle just behind whole replies. -/
theorem Parser.drain_recognizes (data : ByteArray) :
    ∃ reading front, drain {} data = .ok reading ∧
      LongestViable data.data.toList front ∧
      Front front reading.replies ∧
      (reading.error.isSome = true ↔ ¬Viable data.data.toList) ∧
      (∀ error, reading.error = some error → Blames data.data.toList front reading error) ∧
      (reading.error = none →
        (reading.parser.isIdle = true ↔ ∃ replies, IsStream 0 data.data.toList replies)) ∧
      ∀ whole replies, IsStream 0 whole replies → whole <+: data.data.toList →
        ∀ stop, (∃ early, drain {} (data.extract 0 stop) = .ok early ∧
          replies <+: early.replies) ↔ whole.length ≤ stop := by
  obtain ⟨front, longest, delivers, blames⟩ := exists_front data.data.toList
  refine ⟨read {} data.data.toList, front, drain_new data, longest, delivers, ?_, blames, ?_, ?_⟩
  · rw [viable_iff, Option.isSome_iff_ne_none]
  · intro fine
    have reads : read {} data.data.toList =
        ⟨(read {} data.data.toList).parser, (read {} data.data.toList).replies, none⟩ := by
      rw [← fine]
    exact isIdle_iff reads
  · intro whole replies stream begins stop
    rw [← delivered_iff stream begins stop, ← toList_extract_zero]
    constructor
    · rintro ⟨early, drained, delivered⟩
      rw [drain_new] at drained
      cases drained
      exact delivered
    · intro delivered
      exact ⟨_, drain_new _, delivered⟩

end Fanout
