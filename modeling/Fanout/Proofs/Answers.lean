import Fanout.Proofs.Encoding

/-!
What a server answers. On one socket it sends one reply for each command, in order; whatever part
of that was received, the parser finds the replies to the first commands in it, each in the place
of its own answer.
-/

set_option autoImplicit false

namespace Fanout

open Grammar

/-! ### Replies in another place -/

namespace Grammar

variable {offset : Nat} {bytes : List UInt8}

theorem IsElement.move {element : Element} (grammatical : IsElement offset bytes element)
    (other : Nat) : ∃ element, IsElement other bytes element := by
  cases grammatical with
  | nil => exact ⟨_, .nil⟩
  | bulk length bounded => exact ⟨_, .bulk length bounded⟩

theorem AreElements.move {elements : List Element} (grammatical : AreElements offset bytes elements)
    (other : Nat) :
    ∃ moved, AreElements other bytes moved ∧ moved.length = elements.length := by
  induction grammatical generalizing other with
  | nil => exact ⟨[], .nil other, rfl⟩
  | @cons offset first rest element elements head tail ih =>
      obtain ⟨element, head⟩ := head.move other
      obtain ⟨moved, tail, length⟩ := ih (other + first.length)
      exact ⟨element :: moved, .cons head tail, congrArg (· + 1) length⟩

theorem IsReply.move {reply : Reply} (grammatical : IsReply offset bytes reply) (other : Nat) :
    ∃ reply, IsReply other bytes reply := by
  cases grammatical with
  | line allowed => exact ⟨_, .line allowed⟩
  | single only =>
      obtain ⟨element, only⟩ := only.move other
      exact ⟨_, .single only⟩
  | multibulkNil => exact ⟨_, .multibulkNil⟩
  | @multibulk digits content elements count bounded children =>
      obtain ⟨moved, children, length⟩ :=
        children.move (other + (lengthLine .multibulk digits).length)
      have size : elements.size = moved.toArray.size := length.symm
      rw [size] at count bounded
      exact ⟨_, .multibulk count bounded children⟩

theorem IsReply.ne_nil {reply : Reply} (grammatical : IsReply offset bytes reply) : bytes ≠ [] := by
  cases grammatical with
  | line allowed => exact List.cons_ne_nil _ _
  | single only => cases only <;> exact List.cons_ne_nil _ _
  | multibulkNil => exact List.cons_ne_nil _ _
  | multibulk count bounded children => exact List.cons_ne_nil _ _

theorem IsStream.unique {first second : List Reply} (one : IsStream 0 bytes first)
    (two : IsStream 0 bytes second) : first = second := by
  obtain ⟨_, _, reads⟩ := Parser.read_stream Parser.idle_new one
  obtain ⟨_, _, reads'⟩ := Parser.read_stream Parser.idle_new two
  exact congrArg Reading.replies (reads.symm.trans reads')

/-- A beginning of a stream is read to a beginning of its replies. -/
theorem IsStream.reads_prefix {replies : List Reply} {heard : List UInt8}
    (stream : IsStream 0 bytes replies) (begins : heard <+: bytes) :
    (Parser.read {} heard).replies <+: replies := by
  have viable : Viable bytes := ⟨[], replies, by rwa [List.append_nil]⟩
  have fine := viable_iff.mp (viable.of_prefix begins)
  obtain ⟨rest, rfl⟩ := begins
  obtain ⟨last, _, reads⟩ := Parser.read_stream Parser.idle_new stream
  cases early : Parser.read {} heard with
  | mk middle first error =>
      rw [early] at fine
      cases fine
      rw [Parser.read_append_of_fine early] at reads
      have all := congrArg Reading.replies reads
      exact ⟨_, all⟩

end Grammar

/-! ### Answers -/

def WellFormed (answer : ByteArray) : Prop := ∃ reply, IsReply 0 answer.data.toList reply

def joined (answers : List ByteArray) : List UInt8 :=
  answers.flatMap fun answer => answer.data.toList

/-- A reply that stands for an answer, where the answer is in the bytes that were received. -/
def Reply.Answers (data answer : ByteArray) (reply : Reply) : Prop :=
  ∃ offset, IsReply offset answer.data.toList reply ∧
    data.extract offset (offset + answer.size) = answer

theorem joined_append (first second : List ByteArray) :
    joined (first ++ second) = joined first ++ joined second :=
  List.flatMap_append

section

variable {answers : List ByteArray} (wellFormed : ∀ answer ∈ answers, WellFormed answer)

include wellFormed

theorem stream_joined (offset : Nat) :
    ∃ replies, IsStream offset (joined answers) replies ∧ replies.length = answers.length := by
  unfold joined
  induction answers generalizing offset with
  | nil => exact ⟨[], .nil offset, rfl⟩
  | cons answer answers ih =>
      obtain ⟨_, grammatical⟩ := wellFormed answer List.mem_cons_self
      obtain ⟨reply, grammatical⟩ := grammatical.move offset
      obtain ⟨replies, stream, length⟩ := ih
        (fun other member => wellFormed other (List.mem_cons_of_mem _ member))
        (offset + answer.data.toList.length)
      exact ⟨reply :: replies, .cons grammatical stream, congrArg (· + 1) length⟩

/-- Where answers were received, the replies to them are in the place of each. -/
theorem answers_of_stream {replies : List Reply} (stream : IsStream 0 (joined answers) replies)
    {heard : ByteArray} {back : List UInt8} (whole : heard.data.toList = joined answers ++ back) :
    List.Forall₂ (Reply.Answers heard) answers replies := by
  obtain ⟨located, stream', answered⟩ := @exists_stream _
    (fun answer : ByteArray => answer.data.toList) (Reply.Answers heard) heard.data.toList answers
    (by
      intro answer member front back whole
      obtain ⟨_, grammatical⟩ := wellFormed answer member
      obtain ⟨reply, grammatical⟩ := grammatical.move front.length
      exact ⟨reply, grammatical, front.length, grammatical, extract_of_toList whole⟩)
    [] back whole
  rwa [stream.unique stream']

/-- The replies in what was received so far are those to the first answers; when there is one for
each, all answers were received. -/
theorem read_answers {heard : ByteArray} (begins : heard.data.toList <+: joined answers)
    {replies : List Reply} (reads : (Parser.read {} heard.data.toList).replies = replies) :
    replies.length ≤ answers.length ∧
      List.Forall₂ (Reply.Answers heard) (answers.take replies.length) replies ∧
      (answers.length ≤ replies.length → heard.data.toList = joined answers) := by
  have split := List.take_append_drop replies.length answers
  obtain ⟨first, early, size⟩ := @stream_joined (answers.take replies.length)
    (fun answer member => wellFormed answer (List.mem_of_mem_take member)) 0
  obtain ⟨second, late, size'⟩ := @stream_joined (answers.drop replies.length)
    (fun answer member => wellFormed answer (List.mem_of_mem_drop member))
    (0 + (joined (answers.take replies.length)).length)
  have all := early.append late
  rw [← joined_append, split] at all
  have read := all.reads_prefix begins
  rw [reads] at read
  have few : replies.length ≤ answers.length := by
    have most := read.length_le
    rw [List.length_append, size, size', List.length_take, List.length_drop] at most
    omega
  have same : replies = first := by
    rw [List.length_take, Nat.min_eq_left few] at size
    have begins := List.prefix_of_prefix_length_le read (List.prefix_append first second)
      (Nat.le_of_eq size.symm)
    exact begins.eq_of_length size.symm
  have begins' : joined (answers.take replies.length) <+: joined answers :=
    ⟨joined (answers.drop replies.length), by rw [← joined_append, split]⟩
  have enough : (joined (answers.take replies.length)).length ≤ heard.data.toList.length := by
    refine (delivered_iff early begins' heard.data.toList.length).mp ⟨[], ?_⟩
    rw [← List.prefix_iff_eq_take.mp begins, reads, same, List.append_nil]
  obtain ⟨back, whole⟩ := List.prefix_of_prefix_length_le begins' begins enough
  rw [← same] at early
  refine ⟨few, answers_of_stream (fun answer member => wellFormed answer
    (List.mem_of_mem_take member)) early whole.symm, ?_⟩
  intro many
  rw [List.take_of_length_le many] at enough
  exact begins.eq_of_length_le enough

end

/-! ### Servers -/

/-- What a server has received when it answers each of `commands`, if it received `earlier` on the
same socket before. -/
def histories (earlier : List (List ByteArray)) :
    List (List ByteArray) → List (List (List ByteArray))
  | [] => []
  | command :: commands => (earlier ++ [command]) :: histories (earlier ++ [command]) commands

theorem length_histories (earlier commands : List (List ByteArray)) :
    (histories earlier commands).length = commands.length := by
  induction commands generalizing earlier with
  | nil => rfl
  | cons command commands ih => exact congrArg (· + 1) (ih _)

theorem histories_append (earlier first second : List (List ByteArray)) :
    histories earlier (first ++ second) =
      histories earlier first ++ histories (earlier ++ first) second := by
  induction first generalizing earlier with
  | nil => rw [List.append_nil]; rfl
  | cons command first ih =>
      rw [List.cons_append, histories, histories, ih, List.append_assoc]
      rfl

/-- A server, as one socket knows it: its answer to the last of the commands that it has received
there. The answer may depend on all of them. -/
structure Responder where
  answer : List (List ByteArray) → ByteArray
  wellFormed : ∀ received, WellFormed (answer received)

namespace Responder

variable (server : Responder) (earlier commands : List (List ByteArray))

def answers : List ByteArray := (histories earlier commands).map server.answer

def sends : List UInt8 := joined (server.answers [] commands)

theorem wellFormed_answers : ∀ answer ∈ server.answers earlier commands, WellFormed answer := by
  intro answer member
  obtain ⟨received, _, rfl⟩ := List.mem_map.mp member
  exact server.wellFormed received

theorem length_answers : (server.answers earlier commands).length = commands.length := by
  rw [answers, List.length_map, length_histories]

theorem sends_append (more : List (List ByteArray)) :
    server.sends (commands ++ more) =
      server.sends commands ++ joined (server.answers commands more) := by
  unfold sends answers
  rw [histories_append, List.map_append, joined_append, List.nil_append]

variable {server earlier commands}

/-- No answer is empty, so a server that said everything has received everything. -/
theorem eq_nil_of_joined (nothing : joined (server.answers earlier commands) = []) :
    commands = [] := by
  cases commands with
  | nil => rfl
  | cons command commands =>
      unfold joined answers histories at nothing
      rw [List.map_cons, List.flatMap_cons] at nothing
      obtain ⟨reply, grammatical⟩ := server.wellFormed (earlier ++ [command])
      exact absurd (List.append_eq_nil_iff.mp nothing).1 grammatical.ne_nil

end Responder

end Fanout
