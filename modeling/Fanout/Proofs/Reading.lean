import Fanout.Reply.Parser

/-!
Reading a stream. `Parser.read` feeds one byte after the other and is what the bytes mean;
`Parser.drain` asks `execute` for replies until there are no more. The two agree, so it cannot be
seen where a stream was cut.
-/

set_option autoImplicit false

namespace Fanout

structure Reading where
  parser : Parser
  replies : List Reply
  error : Option ParseError
  deriving DecidableEq, Repr

namespace Reading

def cons (reply : Reply) (reading : Reading) : Reading :=
  { reading with replies := reply :: reading.replies }

def resume (reading : Reading) (next : Parser → Reading) : Reading :=
  match reading.error with
  | some _ => reading
  | none =>
      let later := next reading.parser
      { later with replies := reading.replies ++ later.replies }

theorem resume_cons (reply : Reply) (reading : Reading) (next : Parser → Reading) :
    (reading.cons reply).resume next = (reading.resume next).cons reply := by
  obtain ⟨parser, replies, error⟩ := reading
  cases error <;> rfl

theorem resume_of_error {reading : Reading} {next : Parser → Reading} {error : ParseError}
    (failed : reading.error = some error) : reading.resume next = reading := by
  unfold resume
  rw [failed]

theorem resume_of_none {reading : Reading} {next : Parser → Reading}
    (fine : reading.error = none) :
    reading.resume next =
      { next reading.parser with
        replies := reading.replies ++ (next reading.parser).replies } := by
  unfold resume
  rw [fine]

end Reading

namespace Parser

/-- Feeds bytes until one of them does not fit. -/
def read (parser : Parser) : List UInt8 → Reading
  | [] => ⟨parser, [], none⟩
  | byte :: rest =>
      match parser.feed byte with
      | (next, .incomplete) => next.read rest
      | (next, .complete reply) => (next.read rest).cons reply
      | (next, .malformed error) => ⟨next, [], some error⟩

theorem read_append (parser : Parser) (left right : List UInt8) :
    parser.read (left ++ right) = (parser.read left).resume fun next => next.read right := by
  induction left generalizing parser with
  | nil => rfl
  | cons byte rest ih =>
      simp only [List.cons_append, read]
      cases fed : parser.feed byte with
      | mk next progress =>
          cases progress with
          | incomplete => exact ih next
          | complete reply =>
              dsimp only
              rw [ih next, Reading.resume_cons]
          | malformed error => rfl

theorem read_of_incomplete {parser next : Parser} {byte : UInt8}
    (fed : parser.feed byte = (next, .incomplete)) (rest : List UInt8) :
    parser.read (byte :: rest) = next.read rest := by
  simp only [read, fed]

theorem read_of_complete {parser next : Parser} {byte : UInt8} {reply : Reply}
    (fed : parser.feed byte = (next, .complete reply)) (rest : List UInt8) :
    parser.read (byte :: rest) = (next.read rest).cons reply := by
  simp only [read, fed]

theorem read_of_malformed {parser next : Parser} {byte : UInt8} {error : ParseError}
    (fed : parser.feed byte = (next, .malformed error)) (rest : List UInt8) :
    parser.read (byte :: rest) = ⟨next, [], some error⟩ := by
  simp only [read, fed]

theorem position_read {parser : Parser} {bytes : List UInt8}
    (fine : (parser.read bytes).error = none) :
    (parser.read bytes).parser.position = parser.position + bytes.length := by
  induction bytes generalizing parser with
  | nil => rfl
  | cons byte rest ih =>
      have moved := position_feed parser byte
      cases fed : parser.feed byte with
      | mk next progress =>
          rw [fed] at moved
          cases progress with
          | incomplete =>
              rw [read_of_incomplete fed] at fine ⊢
              rw [ih fine, moved, List.length_cons]
              omega
          | complete reply =>
              rw [read_of_complete fed] at fine ⊢
              have restFine : (next.read rest).error = none := fine
              have tail := ih restFine
              simp only [Reading.cons, List.length_cons]
              rw [tail, moved]
              omega
          | malformed error =>
              rw [read_of_malformed fed] at fine
              cases fine

/-! ### Skimming -/

/-- Inside a bulk value at least one byte is missing. -/
def Sound (parser : Parser) : Prop := parser.phase = .bulkBody → 0 < parser.length

theorem sound_of_phase {parser : Parser} (outside : parser.phase ≠ .bulkBody) : parser.Sound :=
  fun inBody => absurd inBody outside

theorem sound_enter (parser : Parser) {phase : Phase} (outside : phase ≠ .bulkBody) :
    (parser.enter phase).1.Sound :=
  sound_of_phase outside

theorem sound_reject {parser : Parser} (outside : parser.phase ≠ .bulkBody) (byte : UInt8)
    (offset : Nat) : (parser.reject byte offset).1.Sound :=
  sound_of_phase outside

theorem sound_finish (parser : Parser) (reply : Reply) : (parser.finish reply).1.Sound :=
  sound_of_phase (by simp [finish])

theorem sound_finishElement (parser : Parser) (element : Element) :
    (parser.finishElement element).1.Sound := by
  unfold finishElement
  split
  · exact sound_finish _ _
  · dsimp only
    split
    · exact sound_finish _ _
    · exact sound_of_phase (by simp)

theorem sound_finishLength (parser : Parser) (header : Header) :
    (parser.finishLength header).1.Sound := by
  cases header with
  | bulk =>
      intro inBody
      simp only [finishLength] at inBody ⊢
      split at inBody
      · cases inBody
      · omega
  | multibulk =>
      unfold finishLength
      dsimp only
      split
      · exact sound_finish _ _
      · exact sound_of_phase (by simp)

theorem sound_feedLengthDigit {parser : Parser} (outside : parser.phase ≠ .bulkBody)
    (header : Header) (byte : UInt8) : (parser.feedLengthDigit header byte).1.Sound := by
  unfold feedLengthDigit
  split
  · exact sound_enter _ (by simp)
  · exact sound_of_phase outside

theorem leadPhase_ne_bulkBody {nested : Bool} {byte : UInt8} {phase : Phase}
    (leads : leadPhase nested byte = some phase) : phase ≠ .bulkBody := by
  rintro rfl
  unfold leadPhase at leads
  repeat' split at leads
  all_goals cases leads

theorem sound_feed {parser : Parser} (sound : parser.Sound) (byte : UInt8) :
    (parser.feed byte).1.Sound := by
  obtain ⟨position, phase, mark, length, parent⟩ := parser
  cases phase with
  | start =>
      simp only [feed]
      split
      · rename_i phase leads
        exact sound_enter _ (leadPhase_ne_bulkBody leads)
      · exact sound_reject (by simp) _ _
  | bulkBody =>
      intro inBody
      simp only [feed, enter] at inBody ⊢
      split at inBody
      · cases inBody
      · omega
  | lengthNilLf header =>
      cases header <;> simp only [feed] <;> split
      · exact sound_finishElement _ _
      · exact sound_reject (by simp) _ _
      · exact sound_finish _ _
      · exact sound_reject (by simp) _ _
  | _ =>
      simp only [feed]
      repeat' split
      all_goals with_reducible first
        | exact sound_enter _ (by simp)
        | exact sound_reject (by simp) _ _
        | exact sound_finish _ _
        | exact sound_finishElement _ _
        | exact sound_finishLength _ _
        | exact sound_feedLengthDigit (by simp) _ _

theorem sound_read {parser : Parser} (sound : parser.Sound) (bytes : List UInt8) :
    (parser.read bytes).parser.Sound := by
  induction bytes generalizing parser with
  | nil => exact sound
  | cons byte rest ih =>
      have kept := sound_feed sound byte
      cases fed : parser.feed byte with
      | mk next progress =>
          rw [fed] at kept
          cases progress with
          | incomplete =>
              rw [read_of_incomplete fed]
              exact ih kept
          | complete reply =>
              rw [read_of_complete fed]
              exact ih kept
          | malformed error =>
              rw [read_of_malformed fed]
              exact kept

def unread (parser : Parser) (data : ByteArray) : List UInt8 :=
  data.data.toList.drop parser.position

theorem drop_of_lt {data : ByteArray} {offset : Nat} (inside : offset < data.size) :
    data.data.toList.drop offset = data[offset] :: data.data.toList.drop (offset + 1) :=
  List.drop_eq_getElem_cons (by simpa using inside)

theorem unread_of_lt {parser : Parser} {data : ByteArray} (inside : parser.position < data.size) :
    parser.unread data = data[parser.position] :: data.data.toList.drop (parser.position + 1) :=
  drop_of_lt inside

theorem unread_of_le {parser : Parser} {data : ByteArray} (done : data.size ≤ parser.position) :
    parser.unread data = [] :=
  List.drop_eq_nil_of_le (by simpa using done)

theorem read_single {parser next : Parser} {byte : UInt8}
    (fed : parser.feed byte = (next, .incomplete)) : parser.read [byte] = ⟨next, [], none⟩ :=
  read_of_incomplete fed []

theorem read_append_of_fine {parser next : Parser} {left : List UInt8} {replies : List Reply}
    (first : parser.read left = ⟨next, replies, none⟩) (right : List UInt8) :
    parser.read (left ++ right) =
      { next.read right with replies := replies ++ (next.read right).replies } := by
  rw [read_append, first, Reading.resume_of_none rfl]

theorem read_text (parser : Parser) (kind : LineKind) (inLine : parser.phase = .line kind)
    {text : List UInt8} (plain : carriageReturn ∉ text) :
    parser.read text = ⟨{ parser with position := parser.position + text.length }, [], none⟩ := by
  induction text generalizing parser with
  | nil => rfl
  | cons byte text ih =>
      simp only [List.mem_cons, not_or] at plain
      obtain ⟨other, plain⟩ := plain
      have fed : parser.feed byte =
          ({ parser with position := parser.position + 1 }, .incomplete) := by
        simp only [feed, inLine, if_neg (Ne.symm other), enter]
      rw [read_of_incomplete fed, ih { parser with position := parser.position + 1 } inLine plain,
        List.length_cons]
      simp only [Nat.add_assoc, Nat.add_comm 1]

theorem read_body (parser : Parser) (inBody : parser.phase = .bulkBody) {body : List UInt8}
    (present : body ≠ []) (fits : body.length ≤ parser.length) :
    parser.read body =
      ⟨{ parser with
          position := parser.position + body.length
          length := parser.length - body.length
          phase := if parser.length - body.length = 0 then .bulkCr else .bulkBody }, [], none⟩ := by
  induction body generalizing parser with
  | nil => exact absurd rfl present
  | cons byte body ih =>
      rw [List.length_cons] at fits
      have fed : parser.feed byte =
          ({ parser with
              position := parser.position + 1
              length := parser.length - 1
              phase := if parser.length - 1 = 0 then .bulkCr else .bulkBody }, .incomplete) := by
        simp only [feed, inBody, enter]
      rw [read_of_incomplete fed]
      cases body with
      | nil => rfl
      | cons second body =>
          have more : parser.length - 1 ≠ 0 := by
            rw [List.length_cons] at fits
            omega
          rw [if_neg more, ih _ rfl (List.cons_ne_nil _ _) (by dsimp only; omega)]
          simp only [List.length_cons, Nat.add_assoc, Nat.sub_sub, Nat.add_comm 1]

/-! ### Steps through data -/

/-- Reading the bytes of the data up to the position of the outcome gives that outcome. -/
def Reaches (parser : Parser) (data : ByteArray) (outcome : Reading) : Prop :=
  ∃ taken, parser.unread data = taken ++ outcome.parser.unread data ∧
    outcome.parser.position = parser.position + taken.length ∧ parser.read taken = outcome

theorem Reaches.refl (parser : Parser) (data : ByteArray) :
    parser.Reaches data ⟨parser, [], none⟩ :=
  ⟨[], rfl, rfl, rfl⟩

theorem Reaches.trans {parser next : Parser} {data : ByteArray} {replies : List Reply}
    {outcome : Reading} (first : parser.Reaches data ⟨next, replies, none⟩)
    (second : next.Reaches data outcome) :
    parser.Reaches data { outcome with replies := replies ++ outcome.replies } := by
  obtain ⟨taken, unread, position, reads⟩ := first
  obtain ⟨more, unread', position', reads'⟩ := second
  refine ⟨taken ++ more, ?_, ?_, ?_⟩
  · rw [unread, unread', List.append_assoc]
  · rw [position', position, List.length_append, Nat.add_assoc]
  · rw [read_append_of_fine reads, reads']

theorem Reaches.inside {parser : Parser} {data : ByteArray} {outcome : Reading}
    (reached : parser.Reaches data outcome) (inside : parser.position ≤ data.size) :
    outcome.parser.position ≤ data.size := by
  obtain ⟨taken, unread, position, _⟩ := reached
  have sizes := congrArg List.length unread
  simp only [Parser.unread, List.length_drop, List.length_append, Array.length_toList,
    ByteArray.size_data] at sizes
  omega

theorem Reaches.sound {parser : Parser} {data : ByteArray} {outcome : Reading}
    (reached : parser.Reaches data outcome) (sound : parser.Sound) : outcome.parser.Sound := by
  obtain ⟨taken, _, _, reads⟩ := reached
  rw [← reads]
  exact sound_read sound taken

theorem reaches_lineEnd (parser : Parser) (kind : LineKind) (inLine : parser.phase = .line kind)
    (data : ByteArray) :
    parser.Reaches data ⟨{ parser with position := lineEnd data parser.position }, [], none⟩ := by
  obtain ⟨position, phase, mark, length, parent⟩ := parser
  dsimp only
  fun_induction lineEnd data position with
  | case1 offset inside _ => exact Reaches.refl _ _
  | case2 offset inside other ih =>
      have fed : Parser.feed ⟨offset, phase, mark, length, parent⟩ data[offset] =
          (⟨offset + 1, phase, mark, length, parent⟩, .incomplete) := by
        simp only [feed, show phase = .line kind from inLine, if_neg other, enter]
      have step : Reaches ⟨offset, phase, mark, length, parent⟩ data
          ⟨⟨offset + 1, phase, mark, length, parent⟩, [], none⟩ :=
        ⟨[data[offset]], unread_of_lt inside, rfl, read_single fed⟩
      exact step.trans (ih inLine)
  | case3 offset outside => exact Reaches.refl _ _

/-- Skimming is reading in one go. -/
theorem reaches_skim {parser : Parser} (sound : parser.Sound) {data : ByteArray}
    (inside : parser.position ≤ data.size) :
    parser.Reaches data ⟨parser.skim data, [], none⟩ := by
  unfold skim
  split
  · rename_i kind inLine
    exact reaches_lineEnd parser kind inLine data
  · rename_i inBody
    have missing := sound inBody
    dsimp only
    by_cases done : parser.position = data.size
    · have nothing : min parser.length (data.size - parser.position) = 0 := by omega
      rw [nothing, if_neg (by omega), ← inBody]
      exact Reaches.refl _ _
    · have size : ((parser.unread data).take
          (min parser.length (data.size - parser.position))).length =
            min parser.length (data.size - parser.position) := by
        rw [List.length_take, unread, List.length_drop, Array.length_toList, ByteArray.size_data]
        omega
      refine ⟨(parser.unread data).take (min parser.length (data.size - parser.position)),
        ?_, ?_, ?_⟩
      · dsimp only [unread]
        rw [← List.drop_drop, List.take_append_drop]
      · rw [size]
      · rw [read_body parser inBody (List.ne_nil_of_length_pos (by omega)) (by omega), size]
  · exact Reaches.refl _ _

end Parser

namespace Progress

def replies : Progress → List Reply
  | .complete reply => [reply]
  | _ => []

def error : Progress → Option ParseError
  | .malformed error => some error
  | _ => none

end Progress

namespace Parser

theorem reaches_feed (parser : Parser) {data : ByteArray} (inside : parser.position < data.size) :
    parser.Reaches data
      ⟨(parser.feed data[parser.position]).1, (parser.feed data[parser.position]).2.replies,
        (parser.feed data[parser.position]).2.error⟩ := by
  have moved := position_feed parser data[parser.position]
  refine ⟨[data[parser.position]], ?_, moved, ?_⟩
  · rw [unread_of_lt inside, unread, moved]
    rfl
  · cases fed : parser.feed data[parser.position] with
    | mk next progress => cases progress <;> simp only [read, fed] <;> rfl

/-- One call reads on to the next reply, to a bad byte or to the end of the data. -/
theorem reaches_run {parser : Parser} (sound : parser.Sound) {data : ByteArray}
    (inside : parser.position ≤ data.size) :
    parser.Reaches data
      ⟨(parser.run data).1, (parser.run data).2.replies, (parser.run data).2.error⟩ := by
  fun_induction run parser data with
  | case1 parser skimmed more next step ih =>
      have skims := reaches_skim sound inside
      have feeds := reaches_feed skimmed more
      rw [step] at feeds
      have both := skims.trans feeds
      exact both.trans (ih (both.sound sound) (both.inside inside))
  | case2 parser skimmed more next outcome stops step =>
      have feeds := reaches_feed skimmed more
      rw [step] at feeds
      exact (reaches_skim sound inside).trans feeds
  | case3 parser skimmed done => exact reaches_skim sound inside

end Parser

end Fanout
