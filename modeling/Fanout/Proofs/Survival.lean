import Fanout.Proofs.Draining
import Fanout.Proofs.Lasting

/-!
What a parser survives. A byte that does not fit is consumed, and the parser goes on from wherever
it was, with its mark, its length and its open array; so its calls start in states that no stream
of the grammar leads to. What every phase needs of the rest holds in these states, too.
-/

set_option autoImplicit false

namespace Fanout

namespace Phase

def isOuter : Phase → Bool
  | .line _ | .lineLf _ | .integerSign | .integerFirstDigit | .integerDigits => true
  | .lengthStart header | .lengthDigits header | .lengthLf header | .lengthNil header
  | .lengthNilCr header | .lengthNilLf header => header = .multibulk
  | .start | .bulkBody | .bulkCr | .bulkLf => false

/-- The next line feed ends a value whose range is known then. -/
def endsRange : Phase → Bool
  | .lineLf _ | .bulkLf => true
  | _ => false

end Phase

/-- A reply that a parser gives when it is at an offset: it lies before that offset, with all its
elements; an array has as many elements as it says, and they are bulk values or nil and have no
elements of their own. -/
structure Reply.Rounded (last : Nat) (reply : Reply) : Prop where
  found : reply.Found last
  size : reply.elements.size = if reply.kind = .multibulk then reply.length else 0
  flat : ∀ part ∈ reply.elements.toList.map Reply.single,
    (part.kind = .bulk ∨ part.kind = .bulkNil) ∧ part.elements = #[]

theorem Reply.flat_elements (reply : Reply) :
    ∀ part ∈ reply.elements.toList.map Reply.single,
      (part.kind = .bulk ∨ part.kind = .bulkNil) ∧ part.elements = #[] := by
  intro part member
  obtain ⟨element, _, rfl⟩ := List.mem_map.mp member
  cases element with
  | bulk offset length => exact ⟨.inl rfl, rfl⟩
  | nil => exact ⟨.inr rfl, rfl⟩

namespace Parser

variable {parser : Parser} {data : ByteArray}

/-! ### One byte -/

/-- What the phases rely on: no array is open around a value that cannot be an element, the end of
a value is not taken for its beginning, and an open array still misses elements. -/
structure Braced (parser : Parser) : Prop where
  outer : parser.phase.isOuter = true → parser.parent = none
  behind : parser.phase.endsRange = true → parser.mark < parser.position
  short : ∀ {parent : OpenMultibulk}, parser.parent = some parent →
    parent.elements.size < parent.count

structure Kept (outcome : Parser × Progress) : Prop where
  braced : outcome.1.Braced
  size : ∀ {reply : Reply}, outcome.2 = .complete reply →
    reply.elements.size = if reply.kind = .multibulk then reply.length else 0

theorem braced_of_inner (inner : parser.phase.isOuter = false)
    (within : parser.phase.endsRange = false)
    (short : ∀ {parent : OpenMultibulk}, parser.parent = some parent →
      parent.elements.size < parent.count) : parser.Braced :=
  ⟨fun outer => absurd (inner.symm.trans outer) Bool.false_ne_true,
    fun ends => absurd (within.symm.trans ends) Bool.false_ne_true, short⟩

theorem braced_new : ({} : Parser).Braced := braced_of_inner rfl rfl nofun

theorem inner_body (missing : Nat) :
    (if missing = 0 then Phase.bulkCr else .bulkBody).isOuter = false ∧
      (if missing = 0 then Phase.bulkCr else .bulkBody).endsRange = false := by
  split
  · exact ⟨rfl, rfl⟩
  · exact ⟨rfl, rfl⟩

theorem Braced.advance (braced : parser.Braced) {position : Nat} (on : parser.position ≤ position) :
    Braced { parser with position := position } :=
  ⟨braced.outer, fun ends => Nat.lt_of_lt_of_le (braced.behind ends) on, braced.short⟩

theorem Braced.incomplete (braced : parser.Braced) : Kept (parser, .incomplete) :=
  ⟨braced, nofun⟩

theorem Braced.enter (braced : parser.Braced) {phase : Phase}
    (outer : phase.isOuter = true → parser.parent = none)
    (behind : phase.endsRange = true → parser.mark < parser.position) :
    Kept (parser.enter phase) :=
  Braced.incomplete ⟨outer, behind, braced.short⟩

theorem Braced.malformed (braced : parser.Braced) (error : ParseError) :
    Kept (parser, .malformed error) :=
  ⟨braced, nofun⟩

theorem Braced.reject (braced : parser.Braced) (byte : UInt8) (offset : Nat) :
    Kept (parser.reject byte offset) :=
  braced.malformed _

theorem Braced.finish (braced : parser.Braced) {reply : Reply}
    (size : reply.elements.size = if reply.kind = .multibulk then reply.length else 0) :
    Kept (parser.finish reply) := by
  refine ⟨braced_of_inner rfl rfl braced.short, ?_⟩
  intro other same
  cases same
  exact size

theorem Braced.finishElement (braced : parser.Braced) (element : Element) :
    Kept (parser.finishElement element) := by
  obtain ⟨position, phase, mark, length, parent⟩ := parser
  cases parent with
  | none => exact braced.finish (by cases element <;> rfl)
  | some parent =>
      obtain ⟨count, elements⟩ := parent
      have short : elements.size < count := braced.short rfl
      unfold Parser.finishElement
      dsimp only
      split
      · rename_i last
        have closed : Braced { position := position, mark := mark, length := length } :=
          braced_of_inner rfl rfl nofun
        exact closed.finish last
      · rename_i more
        refine Braced.incomplete (braced_of_inner rfl rfl ?_)
        intro parent same
        cases same
        rw [Array.size_push] at more ⊢
        dsimp only
        omega

theorem Braced.finishLength (braced : parser.Braced) (header : Header) :
    Kept (parser.finishLength header) := by
  cases header with
  | bulk =>
      obtain ⟨inner, within⟩ := inner_body parser.length
      exact Braced.incomplete (braced_of_inner inner within braced.short)
  | multibulk =>
      unfold Parser.finishLength
      dsimp only
      split
      · exact braced.finish rfl
      · rename_i some
        refine Braced.incomplete (braced_of_inner rfl rfl ?_)
        intro parent same
        cases same
        exact Nat.pos_of_ne_zero some

theorem Braced.feedLengthDigit (braced : parser.Braced) {header : Header}
    (outer : header = .multibulk → parser.parent = none)
    (behind : parser.mark < parser.position) (byte : UInt8) :
    Kept (parser.feedLengthDigit header byte) := by
  unfold Parser.feedLengthDigit
  split
  · refine Braced.incomplete ⟨?_, fun _ => behind, braced.short⟩
    exact fun multibulk => outer (of_decide_eq_true multibulk)
  · exact braced.malformed _

theorem leadPhase_outer {nested : Bool} {byte : UInt8} {phase : Phase}
    (leads : leadPhase nested byte = some phase) (outer : phase.isOuter = true) :
    nested = false := by
  cases nested with
  | false => rfl
  | true =>
      unfold leadPhase at leads
      split at leads
      · cases leads
        cases outer
      · cases leads

theorem leadPhase_endsRange {nested : Bool} {byte : UInt8} {phase : Phase}
    (leads : leadPhase nested byte = some phase) : phase.endsRange = false := by
  unfold leadPhase at leads
  repeat' split at leads
  all_goals cases leads
  all_goals rfl

/-- One byte, whatever comes of it. A byte that is taken never changes whether the value can be an
element, apart from the first one. -/
theorem kept_feed (tidy : parser.Tidy) (braced : parser.Braced) (byte : UInt8) :
    Kept (parser.feed byte) := by
  have advanced := braced.advance (Nat.le_succ parser.position)
  have marked : parser.mark < parser.position + 1 := Nat.lt_succ_of_le tidy.mark
  obtain ⟨position, phase, mark, length, parent⟩ := parser
  cases phase with
  | start =>
      have moved : Braced ⟨position + 1, .start, position + 1, 0, parent⟩ :=
        braced_of_inner rfl rfl braced.short
      simp only [feed]
      split
      · rename_i phase leads
        refine moved.enter ?_ ?_
        · intro outer
          exact Option.isNone_iff_eq_none.mp (by simpa using leadPhase_outer leads outer)
        · intro ends
          rw [leadPhase_endsRange leads] at ends
          cases ends
      · exact moved.reject _ _
  | lineLf kind =>
      simp only [feed]
      split
      · exact advanced.finish (by cases kind <;> rfl)
      · exact advanced.reject _ _
  | bulkBody =>
      obtain ⟨inner, within⟩ := inner_body (length - 1)
      exact Braced.incomplete (braced_of_inner inner within braced.short)
  | lengthNilLf header =>
      cases header <;> simp only [feed] <;> split
      · exact advanced.finishElement .nil
      · exact advanced.reject _ _
      · exact advanced.finish rfl
      · exact advanced.reject _ _
  | _ =>
      simp only [feed]
      repeat' split
      all_goals first
        | exact advanced.enter braced.outer fun _ => marked
        | exact advanced.reject _ _
        | exact advanced.feedLengthDigit (fun same => braced.outer (decide_eq_true same)) marked _
        | exact advanced.finishElement _
        | exact advanced.finishLength _

/-! ### One call -/

theorem Braced.skim (braced : parser.Braced) (data : ByteArray) : (parser.skim data).Braced := by
  unfold Parser.skim
  split
  · exact braced.advance (le_lineEnd data parser.position)
  · obtain ⟨inner, within⟩ :=
      inner_body (parser.length - min parser.length (data.size - parser.position))
    exact braced_of_inner inner within braced.short
  · exact braced

/-- What a step asks for: its subtractions stay above zero, a value that cannot be an element ends
outside of arrays, and what is skimmed is not fed. -/
def admits (parser : Parser) (byte : UInt8) : Bool :=
  match parser.phase with
  | .line _ => byte = carriageReturn
  | .bulkBody => false
  | .lineLf _ => parser.parent.isNone && parser.mark + 1 ≤ parser.position
  | .bulkLf => parser.mark + 1 ≤ parser.position
  | .lengthLf .multibulk | .lengthNilLf .multibulk => parser.parent.isNone
  | .lengthStart _ | .lengthDigits _ => !Decimal.isDigit byte || 48 ≤ byte
  | _ => true

/-- `run`, with a check before every step. -/
def guardedRun (parser : Parser) (data : ByteArray) : Option (Parser × Progress) :=
  let skimmed := parser.skim data
  if skimmed.position ≤ data.size then
    if inside : skimmed.position < data.size then
      if skimmed.admits data[skimmed.position] then
        match step : skimmed.feed data[skimmed.position] with
        | (next, .incomplete) => guardedRun next data
        | (next, outcome) => some (next, outcome)
      else none
    else some (skimmed, .incomplete)
  else none
termination_by data.size - parser.position
decreasing_by
  have skims : parser.position ≤ skimmed.position := position_le_skim parser data
  have steps : next.position = skimmed.position + 1 := by
    have moved := position_feed skimmed data[skimmed.position]
    rw [step] at moved
    exact moved
  omega

theorem lineEnd_carriageReturn {offset : Nat} (inside : lineEnd data offset < data.size) :
    data[lineEnd data offset] = carriageReturn := by
  fun_induction lineEnd data offset with
  | case1 offset more found => exact found
  | case2 offset more other ih => exact ih inside
  | case3 offset ended => exact absurd inside ended

/-- If a byte is left then the bulk value has all of its bytes. -/
theorem phase_skim_body (body : parser.phase = .bulkBody)
    (inside : (parser.skim data).position < data.size) : (parser.skim data).phase = .bulkCr := by
  unfold Parser.skim at inside ⊢
  rw [body] at inside ⊢
  dsimp only at inside ⊢
  rw [if_pos (by omega)]

/-- Outside of what is skimmed, a braced parser may be fed any byte. -/
theorem Braced.admits (braced : parser.Braced) (text : ∀ kind, parser.phase ≠ .line kind)
    (body : parser.phase ≠ .bulkBody) (byte : UInt8) : parser.admits byte = true := by
  obtain ⟨position, phase, mark, length, parent⟩ := parser
  have digit : (!Decimal.isDigit byte || decide (48 ≤ byte)) = true := by
    unfold Decimal.isDigit
    cases decide (48 ≤ byte) <;> simp
  cases phase with
  | line kind => exact absurd rfl (text kind)
  | bulkBody => exact absurd rfl body
  | lineLf kind =>
      have top : parent = none := braced.outer rfl
      have behind : mark < position := braced.behind rfl
      unfold Parser.admits
      rw [top]
      exact decide_eq_true behind
  | bulkLf => exact decide_eq_true (braced.behind rfl)
  | lengthLf header =>
      cases header with
      | bulk => rfl
      | multibulk => exact Option.isNone_iff_eq_none.mpr (braced.outer rfl)
  | lengthNilLf header =>
      cases header with
      | bulk => rfl
      | multibulk => exact Option.isNone_iff_eq_none.mpr (braced.outer rfl)
  | lengthStart header => exact digit
  | lengthDigits header => exact digit
  | _ => rfl

/-- Skimming ends at a byte that a step may be given. -/
theorem Braced.admits_skimmed (braced : parser.Braced)
    (inside : (parser.skim data).position < data.size) :
    (parser.skim data).admits data[(parser.skim data).position] = true := by
  by_cases text : ∃ kind, parser.phase = .line kind
  · obtain ⟨kind, inLine⟩ := text
    have skimmed : parser.skim data = { parser with position := lineEnd data parser.position } := by
      unfold Parser.skim
      rw [inLine]
    simp only [skimmed] at inside ⊢
    simp only [Parser.admits, inLine, lineEnd_carriageReturn inside]
    rfl
  · by_cases body : parser.phase = .bulkBody
    · simp only [Parser.admits, phase_skim_body body inside]
    · have skimmed : parser.skim data = parser := by
        unfold Parser.skim
        split
        · rename_i kind inLine
          exact absurd ⟨kind, inLine⟩ text
        · exact absurd ‹_› body
        · rfl
      simp only [skimmed]
      exact braced.admits (fun kind inLine => text ⟨kind, inLine⟩) body _

/-- A step of a guarded run is a step of a run. -/
theorem Braced.guardedRun_step (braced : parser.Braced)
    (inside : (parser.skim data).position < data.size) {next : Parser} {progress : Progress}
    (step : (parser.skim data).feed data[(parser.skim data).position] = (next, progress)) :
    parser.guardedRun data =
      if progress = .incomplete then next.guardedRun data else some (next, progress) := by
  rw [guardedRun, if_pos (Nat.le_of_lt inside), dif_pos inside,
    if_pos (braced.admits_skimmed inside)]
  split
  · rename_i other same
    obtain ⟨rfl, rfl⟩ := Prod.mk.inj (step.symm.trans same)
    rw [if_pos rfl]
  · rename_i other outcome stops same
    obtain ⟨rfl, rfl⟩ := Prod.mk.inj (step.symm.trans same)
    rw [if_neg stops]

/-- No check fails: a guarded run is a run, and it leaves the parser braced. -/
theorem guardedRun_eq (tidy : parser.Tidy) (braced : parser.Braced)
    (inside : parser.position ≤ data.size) :
    parser.guardedRun data = some (parser.run data) ∧ Kept (parser.run data) := by
  fun_induction run parser data with
  | case1 parser skimmed more next step ih =>
      have fed := neat_feed (tidy_skim tidy data) data[skimmed.position]
      have kept := kept_feed (tidy_skim tidy data) (braced.skim data) data[skimmed.position]
      have moved := position_feed skimmed data[skimmed.position]
      rw [step] at fed kept moved
      dsimp only at moved
      rw [braced.guardedRun_step more step, if_pos rfl]
      exact ih fed.tidy kept.braced (by omega)
  | case2 parser skimmed more next outcome stops step =>
      have kept := kept_feed (tidy_skim tidy data) (braced.skim data) data[skimmed.position]
      rw [step] at kept
      rw [braced.guardedRun_step more step, if_neg stops]
      exact ⟨rfl, kept⟩
  | case3 parser skimmed done =>
      refine ⟨?_, (braced.skim data).incomplete⟩
      rw [guardedRun, if_pos (skim_le inside), dif_neg done]

/-! ### The last byte of a call -/

theorem run_of_end (sound : parser.Sound) (ended : parser.position = data.size) :
    parser.run data = (parser, .incomplete) := by
  have nothing : (parser.run data).2 = .incomplete := by
    by_contra stopped
    have more := (position_of_stopped rfl stopped).1
    omega
  have reached := reaches_run sound (Nat.le_of_eq ended)
  have position := position_of_incomplete sound (Nat.le_of_eq ended) (Prod.ext rfl nothing)
  have reads := reached.read_eq fun _ => position
  rw [unread_of_le (Nat.le_of_eq ended.symm)] at reads
  exact Prod.ext (congrArg Reading.parser reads).symm nothing

/-- What a call comes to, it comes to with the last byte that it takes. -/
theorem reaches_last (sound : parser.Sound) (inside : parser.position ≤ data.size)
    (stopped : (parser.run data).2 ≠ .incomplete) :
    ∃ middle, parser.Reaches data ⟨middle, [], none⟩ ∧
      (parser.run data).1.position = middle.position + 1 := by
  fun_induction run parser data with
  | case1 parser skimmed more next step ih =>
      have both := (reaches_skim sound inside).trans (reaches_feed skimmed more)
      rw [step] at both
      obtain ⟨middle, reached, position⟩ := ih (both.sound sound) (both.inside inside) stopped
      exact ⟨middle, both.trans reached, position⟩
  | case2 parser skimmed more next outcome stops step =>
      have moved := position_feed skimmed data[skimmed.position]
      rw [step] at moved
      exact ⟨skimmed, reaches_skim sound inside, moved⟩
  | case3 parser skimmed done => exact absurd rfl stopped

theorem Reaches.run_extract {middle : Parser} {stop : Nat}
    (reached : parser.Reaches data ⟨middle, [], none⟩) (sound : parser.Sound)
    (inside : parser.position ≤ (data.extract 0 stop).size) (early : stop ≤ middle.position) :
    (parser.run (data.extract 0 stop)).2 = .incomplete := by
  obtain ⟨quiet, ahead, position, reads⟩ := reached
  obtain ⟨taken, unread, _, reads'⟩ := reaches_run sound inside
  have first : taken <+: parser.unread data := by
    rw [unread_extract inside, unread, List.append_assoc]
    exact List.prefix_append _ _
  have second : quiet <+: parser.unread data := by
    rw [ahead]
    exact List.prefix_append _ _
  have short : taken.length ≤ quiet.length := by
    have sizes := congrArg List.length unread
    simp only [Parser.unread, List.length_drop, List.length_append, Array.length_toList,
      ByteArray.size_data, ByteArray.size_extract] at sizes
    dsimp only at position
    omega
  obtain ⟨rest, rfl⟩ := List.prefix_of_prefix_length_le first second short
  rw [read_append, reads'] at reads
  cases ended : (parser.run (data.extract 0 stop)).2 with
  | incomplete => rfl
  | complete reply =>
      rw [ended, Reading.resume_of_none rfl] at reads
      cases congrArg Reading.replies reads
  | malformed error =>
      rw [ended, Reading.resume_of_error rfl] at reads
      cases congrArg Reading.error reads

/-! ### Many calls -/

inductive Deed where
  | append (bytes : ByteArray)
  | execute
  | reset

structure Bench where
  parser : Parser := {}
  input : ByteArray := .empty

namespace Bench

/-- Replies and errors are handed out and the parser is used again, whatever they were. -/
def perform (bench : Bench) : Deed → Except Misuse Bench
  | .append bytes => .ok { bench with input := bench.input ++ bytes }
  | .execute => do
      let (next, _) ← bench.parser.execute bench.input
      return { bench with parser := next }
  | .reset => .ok { bench with parser := {} }

def performAll (bench : Bench) (deeds : List Deed) : Except Misuse Bench :=
  deeds.foldlM perform bench

structure Lasts (bench : Bench) : Prop where
  inside : bench.parser.position ≤ bench.input.size
  sound : bench.parser.Sound
  tidy : bench.parser.Tidy
  braced : bench.parser.Braced

theorem lasts_new : ({} : Bench).Lasts := ⟨Nat.zero_le _, sound_new, tidy_new, braced_new⟩

variable {bench : Bench}

theorem perform_execute (inside : bench.parser.position ≤ bench.input.size) :
    bench.perform .execute = .ok { bench with parser := (bench.parser.run bench.input).1 } := by
  unfold perform
  rw [execute_eq_run inside]
  rfl

theorem Lasts.executed (lasts : bench.Lasts) :
    Lasts { bench with parser := (bench.parser.run bench.input).1 } := by
  obtain ⟨inside, sound, tidy, braced⟩ := lasts
  obtain ⟨neat, ends⟩ := neat_run tidy inside
  exact ⟨ends, (reaches_run sound inside).sound sound, neat.tidy,
    (guardedRun_eq tidy braced inside).2.braced⟩

/-- One deed never fails and keeps what lasts. -/
theorem Lasts.perform (lasts : bench.Lasts) (deed : Deed) :
    ∃ later, bench.perform deed = .ok later ∧ later.Lasts := by
  cases deed with
  | append bytes =>
      refine ⟨_, rfl, ?_, lasts.sound, lasts.tidy, lasts.braced⟩
      have inside := lasts.inside
      dsimp only
      rw [ByteArray.size_append]
      omega
  | execute => exact ⟨_, perform_execute lasts.inside, lasts.executed⟩
  | reset => exact ⟨_, rfl, Nat.zero_le _, sound_new, tidy_new, braced_new⟩

theorem Lasts.performAll (lasts : bench.Lasts) (deeds : List Deed) :
    ∃ later, bench.performAll deeds = .ok later ∧ later.Lasts := by
  induction deeds generalizing bench with
  | nil => exact ⟨bench, rfl, lasts⟩
  | cons deed deeds ih =>
      obtain ⟨middle, performed, kept⟩ := lasts.perform deed
      obtain ⟨later, rest, stays⟩ := ih kept
      refine ⟨later, ?_, stays⟩
      unfold Bench.performAll at rest ⊢
      rw [List.foldlM_cons, performed]
      exact rest

/-- What a call on the whole input comes to. It passes all checks. It comes to nothing only when it
takes all bytes, and changes nothing when there is none to take; whatever else it comes to, it comes
to with the last byte that it takes. -/
structure Executes (bench : Bench) (next : Parser) (progress : Progress) : Prop where
  executed : bench.parser.execute bench.input = .ok (next, progress)
  guarded : bench.parser.guardedRun bench.input = some (next, progress)
  inside : next.position ≤ bench.input.size
  nothing : progress = .incomplete → next.position = bench.input.size
  ended : bench.parser.position = bench.input.size → next = bench.parser ∧ progress = .incomplete
  consumes : progress ≠ .incomplete → bench.parser.position < next.position
  promptly : progress ≠ .incomplete →
    ∀ stop, bench.parser.position ≤ stop → stop < next.position →
      ∃ earlier, bench.parser.execute (bench.input.extract 0 stop) = .ok (earlier, .incomplete)
  rounded : ∀ {reply : Reply}, progress = .complete reply → reply.Rounded next.position

theorem Lasts.executes (lasts : bench.Lasts) :
    bench.Executes (bench.parser.run bench.input).1 (bench.parser.run bench.input).2 := by
  obtain ⟨inside, sound, tidy, braced⟩ := lasts
  obtain ⟨neat, ends⟩ := neat_run tidy inside
  obtain ⟨guarded, kept⟩ := guardedRun_eq tidy braced inside
  constructor
  · exact execute_eq_run inside
  · exact guarded
  · exact ends
  · intro nothing
    exact position_of_incomplete sound inside (Prod.ext rfl nothing)
  · intro ended
    rw [run_of_end sound ended]
    exact ⟨rfl, rfl⟩
  · intro stopped
    exact (position_of_stopped rfl stopped).2
  · intro stopped stop reached early
    have within : bench.parser.position ≤ (bench.input.extract 0 stop).size := by
      rw [ByteArray.size_extract]
      omega
    obtain ⟨middle, quiet, position⟩ := reaches_last sound inside stopped
    have nothing := quiet.run_extract sound within (by omega)
    exact ⟨_, (execute_eq_run within).trans (congrArg Except.ok (Prod.ext rfl nothing))⟩
  · intro reply complete
    exact ⟨neat.found complete, kept.size complete, reply.flat_elements⟩

/-- Every call but the last one consumes a byte. -/
theorem Lasts.drains (lasts : bench.Lasts) :
    ∃ calls idle last, calls ≤ bench.input.size - bench.parser.position ∧
      bench.performAll (List.replicate calls .execute) = .ok { bench with parser := idle } ∧
      idle.execute bench.input = .ok (last, .incomplete) := by
  induction left : bench.input.size - bench.parser.position using Nat.strongRecOn
    generalizing bench with
  | ind left ih =>
      subst left
      have executes := lasts.executes
      by_cases nothing : (bench.parser.run bench.input).2 = .incomplete
      · refine ⟨0, bench.parser, (bench.parser.run bench.input).1, Nat.zero_le _, rfl, ?_⟩
        rw [executes.executed, nothing]
      · have consumed := executes.consumes nothing
        have inside := executes.inside
        obtain ⟨calls, idle, last, few, performed, empty⟩ :=
          ih _ (by dsimp only; omega) lasts.executed rfl
        refine ⟨calls + 1, idle, last, ?_, ?_, empty⟩
        · dsimp only at few
          omega
        · unfold Bench.performAll at performed ⊢
          rw [List.replicate_succ, List.foldlM_cons, perform_execute lasts.inside]
          exact performed

end Bench

/-- However appending, executing and resetting are mixed, also after errors, no call fails and no
check of a step does, and draining takes at most one call more than there are unread bytes. A call
comes to nothing only when it takes all of the input; a reply or an error that ends with the input
is handed out first, and it is the next call that comes to nothing. -/
theorem execute_survives (deeds : List Deed) :
    ∃ bench : Bench, Bench.performAll {} deeds = .ok bench ∧
      bench.parser.position ≤ bench.input.size ∧
      (∃ next progress, bench.Executes next progress) ∧
      ∃ calls idle last, calls ≤ bench.input.size - bench.parser.position ∧
        Bench.performAll {} (deeds ++ List.replicate calls .execute) =
          .ok { bench with parser := idle } ∧
        idle.execute bench.input = .ok (last, .incomplete) := by
  obtain ⟨bench, performed, lasts⟩ := Bench.lasts_new.performAll deeds
  obtain ⟨calls, idle, last, few, drained, empty⟩ := lasts.drains
  refine ⟨bench, performed, lasts.inside, ⟨_, _, lasts.executes⟩, calls, idle, last, few, ?_, empty⟩
  unfold Bench.performAll at performed drained ⊢
  rw [List.foldlM_append, performed]
  exact drained

/-- The call that takes the last byte of the input may hand out a reply. -/
theorem execute_takes_all :
    ∃ bench next reply, Bench.performAll {} [.append "+OK\r\n".toUTF8] = .ok bench ∧
      bench.parser.execute bench.input = .ok (next, .complete reply) ∧
      next.position = bench.input.size := by
  have ran : (({} : Parser).run "+OK\r\n".toUTF8).2 = .complete (.line .ok 1 2) ∧
      (({} : Parser).run "+OK\r\n".toUTF8).1.position = "+OK\r\n".toUTF8.size := by
    decide +kernel
  refine ⟨⟨{}, "+OK\r\n".toUTF8⟩, _, .line .ok 1 2, ?_, ?_, ran.2⟩
  · exact congrArg (fun input => Except.ok (Bench.mk {} input)) ByteArray.empty_append
  · exact (execute_eq_run (Nat.zero_le _)).trans (congrArg Except.ok (Prod.ext rfl ran.1))

end Parser

end Fanout
