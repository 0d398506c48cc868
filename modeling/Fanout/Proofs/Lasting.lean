import Fanout.Proofs.Bookkeeping
import Fanout.Proofs.Ranges

/-!
The bytes of a reply. A parser names ranges of what it has read, bytes that were received stay where
they are while more arrive behind them, and the text of the error replies is never replaced; so a
reply reads the same from the moment it is there until the batch is emptied.
-/

set_option autoImplicit false

namespace Fanout

/-! ### Ranges that a parser names -/

def Reply.Found (last : Nat) (reply : Reply) : Prop :=
  reply.source ≠ .abortText ∧ ∀ part ∈ reply.parts, part.Within 0 last

namespace Parser

variable {parser : Parser} {element : Element}

/-- What the parser remembers of its input lies behind it. This holds after an error, too. -/
structure Tidy (parser : Parser) : Prop where
  mark : parser.mark ≤ parser.position
  children : ∀ {parent : OpenMultibulk}, parser.parent = some parent →
    ∀ element ∈ parent.elements.toList, (Reply.single element).Within 0 parser.position

structure Neat (outcome : Parser × Progress) : Prop where
  tidy : outcome.1.Tidy
  found : ∀ {reply : Reply}, outcome.2 = .complete reply → reply.Found outcome.1.position

theorem tidy_new : ({} : Parser).Tidy := ⟨Nat.le_refl 0, nofun⟩

theorem Tidy.advance (tidy : parser.Tidy) {position : Nat} (on : parser.position ≤ position) :
    Tidy { parser with position := position } :=
  ⟨Nat.le_trans tidy.mark on, fun holds element inside =>
    (tidy.children holds element inside).mono (Nat.le_refl 0) on⟩

theorem neat_incomplete (tidy : parser.Tidy) : Neat (parser, .incomplete) := ⟨tidy, nofun⟩

theorem neat_enter (tidy : parser.Tidy) (phase : Phase) : Neat (parser.enter phase) :=
  neat_incomplete ⟨tidy.mark, tidy.children⟩

theorem neat_malformed (tidy : parser.Tidy) (error : ParseError) :
    Neat (parser, .malformed error) :=
  ⟨tidy, nofun⟩

theorem neat_reject (tidy : parser.Tidy) (byte : UInt8) (offset : Nat) :
    Neat (parser.reject byte offset) :=
  neat_malformed tidy _

theorem neat_finish (tidy : parser.Tidy) {reply : Reply} (found : reply.Found parser.position) :
    Neat (parser.finish reply) := by
  refine ⟨⟨tidy.mark, tidy.children⟩, ?_⟩
  intro other same
  cases same
  exact found

theorem found_line (kind : LineKind) {offset length last : Nat} (inside : offset + length ≤ last) :
    (Reply.line kind offset length).Found last := by
  refine ⟨nofun, ?_⟩
  intro part member
  rw [List.mem_singleton.mp member]
  exact fun _ => ⟨Nat.zero_le _, inside⟩

theorem found_single {last : Nat} (within : (Reply.single element).Within 0 last) :
    (Reply.single element).Found last := by
  refine ⟨by cases element <;> exact nofun, ?_⟩
  intro part member
  have own : part = Reply.single element := List.mem_singleton.mp member
  rw [own]
  exact within

theorem within_nil {last : Nat} : (Reply.single .nil).Within 0 last := nofun

theorem found_nil {last : Nat} : Reply.multibulkNil.Found last := by
  refine ⟨nofun, ?_⟩
  intro part member
  rw [List.mem_singleton.mp member]
  exact nofun

theorem found_multibulk (count : Nat) {elements : Array Element} {last : Nat}
    (within : ∀ element ∈ elements.toList, (Reply.single element).Within 0 last) :
    (Reply.multibulk count elements).Found last := by
  refine ⟨nofun, ?_⟩
  intro part member
  rcases List.mem_cons.mp member with rfl | child
  · exact nofun
  · obtain ⟨element, inside, rfl⟩ := List.mem_map.mp child
    exact within element inside

theorem neat_finishElement (tidy : parser.Tidy)
    (within : (Reply.single element).Within 0 parser.position) :
    Neat (parser.finishElement element) := by
  obtain ⟨position, phase, mark, length, parent⟩ := parser
  cases parent with
  | none => exact neat_finish tidy (found_single within)
  | some parent =>
      obtain ⟨count, elements⟩ := parent
      have all : ∀ child ∈ (elements.push element).toList,
          (Reply.single child).Within 0 position := by
        intro child inside
        rw [Array.toList_push] at inside
        rcases List.mem_append.mp inside with earlier | last
        · exact tidy.children rfl child earlier
        · rw [List.mem_singleton.mp last]
          exact within
      have closed : Tidy { position := position, mark := mark, length := length } :=
        ⟨tidy.mark, nofun⟩
      unfold finishElement
      dsimp only
      split
      · exact neat_finish closed (found_multibulk count all)
      · refine neat_incomplete ⟨tidy.mark, ?_⟩
        intro parent same
        cases same
        exact all

theorem neat_finishLength (tidy : parser.Tidy) (header : Header) :
    Neat (parser.finishLength header) := by
  cases header with
  | bulk => exact neat_incomplete ⟨Nat.le_refl _, tidy.children⟩
  | multibulk =>
      unfold finishLength
      dsimp only
      split
      · exact neat_finish tidy (found_multibulk 0 nofun)
      · refine neat_incomplete ⟨tidy.mark, ?_⟩
        intro parent same
        cases same
        exact nofun

theorem neat_feedLengthDigit (tidy : parser.Tidy) (header : Header) (byte : UInt8) :
    Neat (parser.feedLengthDigit header byte) := by
  have kept : ∀ length, Tidy { parser with length := length } :=
    fun _ => ⟨tidy.mark, tidy.children⟩
  unfold feedLengthDigit
  split
  · exact neat_enter (kept _) _
  · exact neat_malformed tidy _

/-- One byte, whatever comes of it. -/
theorem neat_feed (tidy : parser.Tidy) (byte : UInt8) : Neat (parser.feed byte) := by
  have advanced := tidy.advance (Nat.le_succ parser.position)
  have marked : parser.mark ≤ parser.position := tidy.mark
  obtain ⟨position, phase, mark, length, parent⟩ := parser
  cases phase with
  | start =>
      have moved : Tidy ⟨position + 1, .start, position + 1, 0, parent⟩ :=
        ⟨Nat.le_refl _, advanced.children⟩
      simp only [feed]
      split
      · exact neat_enter moved _
      · exact neat_reject moved _ _
  | lineLf kind =>
      simp only [feed]
      split
      · exact neat_finish advanced (found_line kind (by dsimp only at marked ⊢; omega))
      · exact neat_reject advanced _ _
  | bulkLf =>
      simp only [feed]
      split
      · refine neat_finishElement advanced fun _ => ⟨Nat.zero_le _, ?_⟩
        simp only [Reply.offset, Reply.length]
        dsimp only at marked
        omega
      · exact neat_reject advanced _ _
  | bulkBody =>
      have shorter : Tidy ⟨position + 1, .bulkBody, mark, length - 1, parent⟩ :=
        ⟨advanced.mark, advanced.children⟩
      exact neat_enter shorter _
  | lengthNilLf header =>
      cases header <;> simp only [feed] <;> split
      · exact neat_finishElement advanced within_nil
      · exact neat_reject advanced _ _
      · exact neat_finish advanced found_nil
      · exact neat_reject advanced _ _
  | _ =>
      simp only [feed]
      repeat' split
      all_goals first
        | exact neat_enter advanced _
        | exact neat_reject advanced _ _
        | exact neat_feedLengthDigit advanced _ _
        | exact neat_finishLength advanced _

theorem lineEnd_le {data : ByteArray} {offset : Nat} (inside : offset ≤ data.size) :
    lineEnd data offset ≤ data.size := by
  fun_induction lineEnd data offset with
  | case1 offset more found => exact inside
  | case2 offset more other ih => exact ih more
  | case3 offset ended => exact inside

theorem tidy_skim (tidy : parser.Tidy) (data : ByteArray) : (parser.skim data).Tidy := by
  unfold skim
  split
  · exact tidy.advance (le_lineEnd data parser.position)
  · have moved := tidy.advance
      (Nat.le_add_right parser.position (min parser.length (data.size - parser.position)))
    exact ⟨moved.mark, moved.children⟩
  · exact tidy

theorem skim_le {data : ByteArray} (inside : parser.position ≤ data.size) :
    (parser.skim data).position ≤ data.size := by
  unfold skim
  split
  · exact lineEnd_le inside
  · dsimp only
    omega
  · exact inside

/-- Running a tidy parser leaves it tidy and inside its data, whatever it finds. -/
theorem neat_run {data : ByteArray} (tidy : parser.Tidy) (inside : parser.position ≤ data.size) :
    Neat (parser.run data) ∧ (parser.run data).1.position ≤ data.size := by
  fun_induction run parser data with
  | case1 parser skimmed more next step ih =>
      have fed := neat_feed (tidy_skim tidy data) data[skimmed.position]
      have moved := position_feed skimmed data[skimmed.position]
      rw [step] at fed moved
      dsimp only at moved
      exact ih fed.tidy (by omega)
  | case2 parser skimmed more next outcome stops step =>
      have fed := neat_feed (tidy_skim tidy data) data[skimmed.position]
      have moved := position_feed skimmed data[skimmed.position]
      rw [step] at fed moved
      dsimp only at moved
      refine ⟨fed, ?_⟩
      dsimp only
      omega
  | case3 parser skimmed done => exact ⟨neat_incomplete (tidy_skim tidy data), skim_le inside⟩

/-- A parser that has worked on bytes that were received, from the first one on, as they came. -/
inductive Works : ByteArray → Parser → Prop where
  | idle (data : ByteArray) : Works data {}
  | ran {data : ByteArray} {parser : Parser} (works : Works data parser) (more : ByteArray) :
      Works (data ++ more) (parser.run (data ++ more)).1

theorem Works.tidy {data : ByteArray} (works : Works data parser) :
    parser.Tidy ∧ parser.position ≤ data.size := by
  induction works with
  | idle data => exact ⟨tidy_new, Nat.zero_le _⟩
  | ran works more ih =>
      obtain ⟨tidy, inside⟩ := ih
      have within := Nat.le_trans inside (Nat.le_add_right _ more.size)
      rw [← ByteArray.size_append] at within
      obtain ⟨neat, ends⟩ := neat_run tidy within
      exact ⟨neat.tidy, ends⟩

end Parser

/-! ### What lasts -/

namespace Batch

variable {admits : Buffer → Reply → Prop} {bytes more : ByteArray}
  {before middle after : Metered Batch} {first second third batch : Batch}

def admitsFound (buffer : Buffer) (reply : Reply) : Prop := reply.Found buffer.filled.size

structure UpWith (parser : Parser) (buffer : Buffer) : Prop where
  inside : buffer.position ≤ buffer.capacity
  tidy : parser.Tidy
  behind : parser.position ≤ buffer.filled.size

theorem follows_found : Follows admitsFound UpWith where
  runs upWith := by
    obtain ⟨inside, tidy, behind⟩ := upWith
    obtain ⟨neat, ends⟩ := Parser.neat_run tidy behind
    exact ⟨inside, neat.tidy, ends⟩
  admitted upWith ran := by
    obtain ⟨inside, tidy, behind⟩ := upWith
    obtain ⟨neat, ends⟩ := Parser.neat_run tidy behind
    rw [ran] at neat ends
    obtain ⟨source, within⟩ := neat.found rfl
    exact ⟨source, fun part member => (within part member).mono (Nat.le_refl 0) ends⟩
  grows upWith ensured := by
    obtain ⟨filled, inside⟩ := Buffer.ensureRemaining_filled upWith.inside ensured
    refine ⟨inside, upWith.tidy, ?_⟩
    rw [filled]
    exact upWith.behind
  stores upWith fits := by
    refine ⟨Buffer.inside_store upWith.inside _, upWith.tidy, ?_⟩
    rw [Buffer.filled_store upWith.inside, ByteArray.size_append]
    exact Nat.le_trans upWith.behind (Nat.le_add_right _ _)

structure Readable (batch : Batch) : Prop where
  inside : batch.readBuffer.position ≤ batch.readBuffer.capacity
  ranges : ∀ reply ∈ batch.replies.toList, ∀ part ∈ reply.parts,
    part.Within 0 batch.readBuffer.filled.size
  texts : ∀ reply ∈ batch.replies.toList, reply.source = .abortText →
    ∃ text, batch.abortText = some text ∧ reply = .aborted text.utf8ByteSize

structure Outlasts (bytes : ByteArray) (before after : Batch) : Prop where
  readable : after.Readable
  appends : Appends before after
  filled : after.readBuffer.filled = before.readBuffer.filled ++ bytes

theorem Outlasts.refl (readable : batch.Readable) : Outlasts .empty batch batch :=
  ⟨readable, .refl batch, ByteArray.append_empty.symm⟩

theorem Outlasts.trans (one : Outlasts bytes first second) (two : Outlasts more second third) :
    Outlasts (bytes ++ more) first third := by
  refine ⟨two.readable, one.appends.trans two.appends, ?_⟩
  rw [two.filled, one.filled, ByteArray.append_assoc]

theorem outlasts_of_same (readable : first.Readable)
    (readBuffer : second.readBuffer = first.readBuffer) (replies : second.replies = first.replies)
    (text : second.abortText = first.abortText) : Outlasts .empty first second := by
  refine ⟨⟨?_, ?_, ?_⟩, ⟨?_, ?_⟩, ?_⟩
  · rw [readBuffer]
    exact readable.inside
  · rw [replies, readBuffer]
    exact readable.ranges
  · rw [replies, text]
    exact readable.texts
  · refine ⟨[], ?_⟩
    rw [List.append_nil, replies]
  · intro known aborted
    rw [text, aborted]
  · rw [readBuffer, ByteArray.append_empty]

theorem Readable.received (readable : batch.Readable) {buffer : Buffer}
    (filled : buffer.filled = batch.readBuffer.filled ++ bytes)
    (inside : buffer.position ≤ buffer.capacity) :
    Outlasts bytes batch { batch with readBuffer := buffer } := by
  refine ⟨⟨inside, ?_, readable.texts⟩, ⟨List.prefix_refl _, id⟩, filled⟩
  intro reply among part member
  refine (readable.ranges reply among part member).mono (Nat.le_refl 0) ?_
  dsimp only
  rw [filled, ByteArray.size_append]
  exact Nat.le_add_right _ _

theorem Readable.answered (readable : batch.Readable) {reply : Reply}
    (found : reply.Found batch.readBuffer.filled.size) :
    Outlasts .empty batch (batch.answer reply) := by
  refine ⟨⟨readable.inside, ?_, ?_⟩, ⟨?_, id⟩, ByteArray.append_empty.symm⟩
  · intro other among part member
    unfold answer at among
    rw [Array.toList_push] at among
    rcases List.mem_append.mp among with earlier | last
    · exact readable.ranges other earlier part member
    · rw [List.mem_singleton.mp last] at member
      exact found.2 part member
  · intro other among aborted
    unfold answer at among
    rw [Array.toList_push] at among
    rcases List.mem_append.mp among with earlier | last
    · exact readable.texts other earlier aborted
    · rw [List.mem_singleton.mp last] at aborted
      exact absurd aborted found.1
  · unfold answer
    rw [Array.toList_push]
    exact List.prefix_append _ _

/-- No reply stands for an abort text before there is one. -/
theorem Readable.failed (readable : batch.Readable) (plain : batch.abortText = none)
    (text : String) : Outlasts .empty batch (batch.failPending text) := by
  have replies : (batch.failPending text).replies.toList = batch.replies.toList ++
      List.replicate batch.pending (.aborted text.utf8ByteSize) := by
    unfold failPending
    rw [Array.toList_append, Array.toList_replicate]
  refine ⟨⟨readable.inside, ?_, ?_⟩, ⟨?_, ?_⟩, ByteArray.append_empty.symm⟩
  · intro reply among part member
    rw [replies] at among
    rcases List.mem_append.mp among with earlier | added
    · exact readable.ranges reply earlier part member
    · rw [List.eq_of_mem_replicate added] at member
      rw [List.mem_singleton.mp member]
      exact nofun
  · intro reply among aborted
    rw [replies] at among
    rcases List.mem_append.mp among with earlier | added
    · obtain ⟨_, impossible, _⟩ := readable.texts reply earlier aborted
      rw [plain] at impossible
      cases impossible
    · exact ⟨text, rfl, List.eq_of_mem_replicate added⟩
  · rw [replies]
    exact List.prefix_append _ _
  · intro known aborted
    rw [plain] at aborted
    cases aborted

theorem Change.outlasts (change : Change admitsFound before bytes after)
    (readable : before.item.Readable) : Outlasts bytes before.item after.item := by
  cases change with
  | flipped =>
      unfold startSending
      split <;> exact outlasts_of_same readable rfl rfl rfl
  | receiveRoom ensured =>
      obtain ⟨filled, inside⟩ := Buffer.ensureRemaining_filled readable.inside ensured
      exact readable.received (filled.trans ByteArray.append_empty.symm) inside
  | received bytes fits =>
      exact readable.received (Buffer.filled_store readable.inside bytes)
        (Buffer.inside_store readable.inside bytes)
  | answered busy admitted => exact readable.answered admitted
  | failed text plain => exact readable.failed plain text
  | _ => exact outlasts_of_same readable rfl rfl rfl

theorem Changes.outlasts (changes : Changes admitsFound before bytes after)
    (readable : before.item.Readable) : Outlasts bytes before.item after.item := by
  induction changes with
  | refl => exact .refl readable
  | step changes change ih => exact ih.trans (change.outlasts ih.readable)

/-! ### Reading a reply -/

theorem extract_of_front {front back : ByteArray} {start stop : Nat} (inside : stop ≤ front.size) :
    (front ++ back).extract start stop = front.extract start stop := by
  have nothing : back.extract (start - front.size) 0 = .empty :=
    ByteArray.extract_eq_empty_iff.mpr (Nat.le_trans (Nat.min_le_left _ _) (Nat.zero_le _))
  rw [ByteArray.extract_append, Nat.sub_eq_zero_of_le inside, nothing, ByteArray.append_empty]

theorem own_of_abortText {reply part : Reply} (member : part ∈ reply.parts)
    (aborted : part.source = .abortText) : part = reply := by
  rcases List.mem_cons.mp member with same | child
  · exact same
  · obtain ⟨element, _, rfl⟩ := List.mem_map.mp child
    cases element <;> cases aborted

/-- What a reply of the batch reads as, by where its bytes are. -/
theorem Readable.replyData (readable : batch.Readable) {reply part : Reply}
    (among : reply ∈ batch.replies.toList) (member : part ∈ reply.parts) :
    ∃ data, batch.replyData part = .ok data ∧
      (part.source = .received →
        part.offset + part.length ≤ batch.readBuffer.filled.size ∧
          data = some (batch.readBuffer.filled.extract part.offset (part.offset + part.length))) ∧
      (part.source = .abortText →
        ∃ text, batch.abortText = some text ∧ data = some text.toUTF8) ∧
      (data = none ↔ part.source = .nowhere) := by
  cases source : part.source with
  | nowhere =>
      refine ⟨none, ?_, nofun, nofun, ⟨fun _ => rfl, fun _ => rfl⟩⟩
      unfold Batch.replyData
      rw [source]
  | received =>
      have within := readable.ranges reply among part member
      exact ⟨_, replyData_received readable.inside within source,
        fun _ => ⟨(within source).2, rfl⟩, nofun, ⟨nofun, nofun⟩⟩
  | abortText =>
      have own := own_of_abortText member source
      rw [own] at source ⊢
      obtain ⟨text, aborted, same⟩ := readable.texts reply among source
      rw [same]
      exact ⟨_, replyData_aborted aborted, nofun, fun _ => ⟨text, aborted, rfl⟩, ⟨nofun, nofun⟩⟩

/-- A reply reads the same later on. -/
theorem Outlasts.replyData (outlasts : Outlasts bytes first second) (readable : first.Readable)
    {reply part : Reply} (among : reply ∈ first.replies.toList) (member : part ∈ reply.parts) :
    second.replyData part = first.replyData part := by
  have later := outlasts.appends.replies.subset among
  obtain ⟨data, reads, received, aborted, nowhere⟩ := readable.replyData among member
  obtain ⟨data', reads', received', aborted', nowhere'⟩ :=
    outlasts.readable.replyData later member
  rw [reads, reads']
  refine congrArg Except.ok ?_
  cases source : part.source with
  | nowhere => rw [nowhere.mpr source, nowhere'.mpr source]
  | received =>
      obtain ⟨inside, same⟩ := received source
      obtain ⟨_, same'⟩ := received' source
      rw [same, same', outlasts.filled, extract_of_front inside]
  | abortText =>
      obtain ⟨text, known, same⟩ := aborted source
      obtain ⟨text', known', same'⟩ := aborted' source
      have kept := outlasts.appends.abortText known
      rw [known'] at kept
      cases kept
      rw [same, same']

/-! ### The course of a batch -/

/-- Only a reply that a parser has found in the received bytes is pushed. -/
def Use.Proper (batch : Batch) : Use → Prop
  | .push reply => ∃ parser next, Parser.Works batch.readBuffer.filled parser ∧
      parser.run batch.readBuffer.filled = (next, .complete reply)
  | _ => True

/-- What becomes of a batch without being emptied, by uses and by rounds that it takes part in, with
all that it receives. The counters of its engine may be anything. -/
inductive Course {Net Sock : Type} (transport : Transport Net Sock) (start : Batch) :
    ByteArray → Batch → Prop where
  | rests : Course transport start .empty start
  | used {received : ByteArray} {batch : Batch} (course : Course transport start received batch)
      (memory : MemoryStats) (use : Use) (proper : use.Proper batch) :
      Course transport start (received ++ use.delivers ⟨batch, memory⟩)
        (use.operation.leaves ⟨batch, memory⟩).item
  | served {received : ByteArray} {batch : Batch} (course : Course transport start received batch)
      {engine : Engine} {network : Net} {pairs : List (Pair Sock)} {timeout : Duration}
      {ordinal : Nat}
      {connection : Connection Sock} {after : Pair Sock}
      (added : (Round.enlist engine network pairs).pairs[ordinal]? = some ⟨connection, batch⟩)
      (ended : ((Round.enlist engine network pairs).execute transport timeout).2.pairs[ordinal]? =
        some after) :
      Course transport start
        (received ++ (Round.enlist engine network pairs).heard transport timeout ordinal)
        after.batch

variable {Net Sock : Type} {transport : Transport Net Sock}

theorem Use.Proper.admitted {use : Use} (proper : use.Proper batch) :
    use.Admitted admitsFound batch := by
  cases use with
  | push reply =>
      obtain ⟨parser, next, works, ran⟩ := proper
      obtain ⟨tidy, behind⟩ := works.tidy
      obtain ⟨neat, ends⟩ := Parser.neat_run tidy behind
      rw [ran] at neat ends
      obtain ⟨source, within⟩ := neat.found rfl
      exact ⟨source, fun part member => (within part member).mono (Nat.le_refl 0) ends⟩
  | _ => trivial

theorem served_outlasts {pair : Pair Sock} (readable : batch.Readable)
    {connection : Connection Sock}
    (served : Served transport (Pair.prepared ⟨connection, batch⟩) bytes pair) :
    Outlasts bytes batch pair.batch ∧ UpWith pair.connection.parser pair.batch.readBuffer := by
  induction served with
  | entered =>
      obtain ⟨readBuffer, _, replies, text⟩ := Pair.prepared_batch ⟨connection, batch⟩
      have kept := outlasts_of_same readable readBuffer replies text
      exact ⟨kept, kept.readable.inside, Parser.tidy_new, Nat.zero_le _⟩
  | move served busy move ih =>
      obtain ⟨outlasts, upWith⟩ := ih
      obtain ⟨changes, sound⟩ := move.changes follows_found upWith
      exact ⟨outlasts.trans (changes.outlasts outlasts.readable), sound⟩

theorem Course.outlasts {start : Batch} (readable : start.Readable) {received : ByteArray}
    (course : Course transport start received batch) : Outlasts received start batch := by
  induction course with
  | rests => exact .refl readable
  | @used received batch course memory use proper ih =>
      have changes := @Use.changes admitsFound ⟨batch, memory⟩ use proper.admitted
      exact ih.trans (changes.outlasts ih.readable)
  | @served _ batch course _ _ _ timeout _ _ _ added ended ih =>
      refine ih.trans ?_
      cases busy : batch.hasPending with
      | true =>
          obtain ⟨last, there, served⟩ := Round.execute_served transport timeout added busy
          rw [there] at ended
          cases ended
          exact (served_outlasts ih.readable served).1
      | false =>
          rw [Round.execute_idle transport timeout added busy] at ended
          cases ended
          rw [Round.heard_idle transport timeout added busy]
          exact .refl ih.readable

theorem Started.readable {state : Metered Batch} (started : Started state) :
    state.item.Readable ∧ state.item.readBuffer.filled = .empty := by
  have fresh : ∀ {batch : Batch}, batch.readBuffer.Holds .empty → batch.replies = #[] →
      batch.Readable ∧ batch.readBuffer.filled = .empty := by
    intro batch holds none
    refine ⟨⟨holds.inside, ?_, ?_⟩, holds.filled⟩
    · rw [none]
      exact nofun
    · rw [none]
      exact nofun
  cases started with
  | made config memory => exact fresh (Buffer.holds_new _ _) rfl
  | emptied used => exact fresh (Buffer.holds_cleared _ _) rfl

theorem nowhere_iff (reply : Reply) :
    reply.source = .nowhere ↔
      reply.kind = .bulkNil ∨ reply.kind = .multibulkNil ∨ reply.kind = .multibulk := by
  cases reply with
  | line kind offset length => cases kind <;> simp [Reply.source, Reply.kind, LineKind.replyKind]
  | single element => cases element <;> simp [Reply.source, Reply.kind]
  | _ => simp [Reply.source, Reply.kind]

/-- The replies of a batch last until it is emptied. Once a reply is there it stays in its place
whatever is done with the batch in and between rounds, and it and its elements can be read and
always read the same: a reply that was received is the range that it names of all bytes that were
received so far, an error reply of an abort is the text of the abort, and just the nil and array
replies have no bytes. -/
theorem replyData_lasts {start : Metered Batch} (started : Started start) {before after : Batch}
    {received more : ByteArray} (course : Course transport start.item received before)
    (later : Course transport before more after) :
    before.readBuffer.filled = received ∧ after.readBuffer.filled = received ++ more ∧
      ∀ (index : Nat) (reply : Reply), before.replies[index]? = some reply →
        after.replies[index]? = some reply ∧
          ∀ part ∈ reply.parts, ∃ data,
            before.replyData part = .ok data ∧ after.replyData part = .ok data ∧
            (part.source = .received → part.offset + part.length ≤ received.size ∧
              data = some (received.extract part.offset (part.offset + part.length))) ∧
            (part.source = .abortText →
              ∃ text, before.abortText = some text ∧ data = some text.toUTF8) ∧
            (data = none ↔ part.kind = .bulkNil ∨ part.kind = .multibulkNil ∨
              part.kind = .multibulk) := by
  obtain ⟨readable, empty⟩ := started.readable
  have first := course.outlasts readable
  have second := later.outlasts first.readable
  have filled : before.readBuffer.filled = received := by
    rw [first.filled, empty, ByteArray.empty_append]
  refine ⟨filled, by rw [second.filled, filled], ?_⟩
  intro index reply present
  rw [← Array.getElem?_toList] at present ⊢
  constructor
  · obtain ⟨rest, same⟩ := second.appends.replies
    have inside := (List.getElem?_eq_some_iff.mp present).1
    rw [← same, List.getElem?_append_left inside]
    exact present
  intro part member
  have among := List.mem_of_getElem? present
  obtain ⟨data, reads, inReceived, inText, nowhere⟩ := first.readable.replyData among member
  rw [filled] at inReceived
  exact ⟨data, reads, (second.replyData first.readable among member).trans reads, inReceived,
    inText, nowhere.trans (nowhere_iff part)⟩

def halfway : Batch :=
  (useAll [.write ⟨#[43, 13, 10]⟩ 2, .store ⟨#[43, 79, 75, 13, 10]⟩, .push (.line .ok 1 2)]
    (allocate { readBufferSize := 1, writeBufferSize := 3 } {})).item

theorem replyData_lasts_stranded :
    ∃ after,
      ((Round.enlist {} () [⟨Connection.new ⟨"nowhere", 6379⟩ 255, halfway⟩]).execute
        Round.stranded 1000).2.pairs[0]? = some after ∧
      after.batch.replyData (.line .ok 1 2) = .ok (some ⟨#[79, 75]⟩) := by
  have added : (Round.enlist {} () [(⟨Connection.new ⟨"nowhere", 6379⟩ 255, halfway⟩ :
      Pair Unit)]).pairs[0]? = some ⟨Connection.new ⟨"nowhere", 6379⟩ 255, halfway⟩ := rfl
  obtain ⟨after, there, _⟩ := Round.execute_served Round.stranded 1000 added (by decide +kernel)
  have course : Course Round.stranded
      (allocate { readBufferSize := 1, writeBufferSize := 3 } {}).item _ halfway :=
    ((Course.rests.used _ (.write ⟨#[43, 13, 10]⟩ 2) trivial).used _
      (.store ⟨#[43, 79, 75, 13, 10]⟩) trivial).used _ (.push (.line .ok 1 2))
      ⟨{}, _, .idle _, Prod.ext rfl (by decide +kernel)⟩
  obtain ⟨_, _, lasts⟩ := replyData_lasts (.made _ _) course (.served .rests added there)
  obtain ⟨_, parts⟩ := lasts 0 (.line .ok 1 2) (by decide +kernel)
  obtain ⟨data, _, reads, received, _⟩ := parts _ (List.mem_singleton_self _)
  obtain ⟨_, rfl⟩ := received rfl
  exact ⟨after, there, reads.trans (by decide +kernel)⟩

end Batch

end Fanout
