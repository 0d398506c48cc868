import Fanout.Connection.Exchange
import Fanout.Proofs.Draining

/-!
Receiving. The bytes that a socket delivers are all kept, in order, and the replies of a batch are
those that the bytes received so far hold, as far as commands are pending.
-/

set_option autoImplicit false

namespace Fanout

namespace Buffer

variable {σ : Type}

theorem size_filled {buffer : Buffer} (inside : buffer.position ≤ buffer.capacity) :
    buffer.filled.size = buffer.position := by
  unfold capacity at inside
  rw [filled, ByteArray.size_extract]
  omega

theorem filled_store {buffer : Buffer} (inside : buffer.position ≤ buffer.capacity)
    (bytes : ByteArray) : (buffer.store bytes).filled = buffer.filled ++ bytes := by
  have size : (buffer.filled ++ bytes).size = buffer.position + bytes.size := by
    rw [ByteArray.size_append, size_filled inside]
  exact ByteArray.extract_append_eq_left size.symm

theorem inside_store {buffer : Buffer} (inside : buffer.position ≤ buffer.capacity)
    (bytes : ByteArray) : (buffer.store bytes).position ≤ (buffer.store bytes).capacity := by
  have size := size_filled inside
  simp only [store, capacity, ByteArray.size_append]
  unfold filled at size
  omega

theorem filled_extend {buffer : Buffer} (inside : buffer.position ≤ buffer.capacity)
    (capacity : Nat) : (buffer.extend capacity).filled = buffer.filled := by
  have nothing : buffer.position - buffer.data.size = 0 := Nat.sub_eq_zero_of_le inside
  have kept : (buffer.extend capacity).filled = buffer.filled ++
      (solid (capacity - buffer.capacity) 0).extract (0 - buffer.data.size)
        (buffer.position - buffer.data.size) := ByteArray.extract_append
  rw [kept, nothing, ByteArray.extract_eq_empty_iff.mpr, ByteArray.append_empty]
  exact Nat.le_trans (Nat.min_le_left _ _) (Nat.zero_le _)

theorem ensureRemaining_filled {amount : Nat} {state after : Metered Buffer}
    (inside : state.item.position ≤ state.item.capacity)
    (ensured : ensureRemaining amount state = .ok () after) :
    after.item.filled = state.item.filled ∧ after.item.position ≤ after.item.capacity := by
  unfold ensureRemaining at ensured
  dsimp only at ensured
  split at ensured
  · cases ensured
  · split at ensured
    · cases ensured
      exact ⟨rfl, inside⟩
    · split at ensured
      · cases ensured
      · cases ensured
        refine ⟨filled_extend inside _, Nat.le_trans inside ?_⟩
        simp only [capacity, extend, ByteArray.size_append]
        omega

/-- What a source delivers when it is asked once: no more than the room it is given. -/
def delivered (source : σ → Nat → ReceiveAnswer × σ) (peer : σ) (state : Metered Buffer) :
    ByteArray :=
  match ensureRemaining state.item.headroom state with
  | .error _ _ => .empty
  | .ok () state =>
      match source peer state.item.remaining with
      | (.fails _, _) => .empty
      | (.delivers bytes, _) => bytes.extract 0 state.item.remaining

theorem receive_filled {source : σ → Nat → ReceiveAnswer × σ} {peer later : σ}
    {state after : Metered Buffer} {result : Except Failure Nat}
    (inside : state.item.position ≤ state.item.capacity)
    (received : receive source peer state = (result, after, later)) :
    after.item.filled = state.item.filled ++ delivered source peer state ∧
      after.item.position ≤ after.item.capacity ∧
      result.toOption.getD 0 = (delivered source peer state).size := by
  unfold receive at received
  unfold delivered
  cases ensured : ensureRemaining state.item.headroom state with
  | error failure kept =>
      have same := ensureRemaining_error ensured
      rw [ensured] at received
      cases failure <;> cases received <;> rw [same] <;>
        exact ⟨ByteArray.append_empty.symm, inside, rfl⟩
  | ok _ ready =>
      obtain ⟨filled, inside'⟩ := ensureRemaining_filled inside ensured
      rw [ensured] at received
      dsimp only at received ⊢
      cases answer : source peer ready.item.remaining with
      | mk said next =>
          rw [answer] at received
          cases said with
          | fails error =>
              cases received
              exact ⟨filled.trans ByteArray.append_empty.symm, inside', rfl⟩
          | delivers bytes =>
              cases received
              dsimp only
              rw [filled_store inside', filled]
              exact ⟨rfl, inside_store inside' _, rfl⟩

end Buffer

namespace Intake

variable {Net Sock : Type}

def asksAgain : Except Failure Nat → Bool
  | .ok (_ + 1) => true
  | .error (.io .interrupted) => true
  | _ => false

theorem less_of_asksAgain {transport : Transport Net Sock} {intake : Intake Sock}
    (again : asksAgain (intake.receive transport).1 = true) :
    (intake.receive transport).2.batch.pending = intake.batch.pending ∧
      ((intake.receive transport).2.batch.readBuffer.roomLeft < intake.batch.readBuffer.roomLeft ∨
        (intake.receive transport).2.batch.readBuffer.roomLeft =
            intake.batch.readBuffer.roomLeft ∧
          transport.patience (intake.receive transport).2.socket <
            transport.patience intake.socket) := by
  cases received : intake.receive transport with
  | mk result next =>
      rw [received] at again
      rcases result with failure | _ | count
      · cases failure with
        | io error =>
            cases error with
            | interrupted =>
                obtain ⟨same, kept, less⟩ := receive_interrupted received
                exact ⟨same, .inr ⟨kept, less⟩⟩
            | _ => cases again
        | _ => cases again
      · cases again
      · obtain ⟨same, less⟩ := receive_ok received
        exact ⟨same, .inl less⟩

theorem stops_of_failure {failure : Failure} (other : failure ≠ .io .interrupted) :
    asksAgain (.error failure) = false := by
  unfold asksAgain
  split
  · rename_i impossible
    cases impossible
  · rename_i same
    cases same
    exact absurd rfl other
  · rfl

def proceed (transport : Transport Net Sock) (intake : Intake Sock) :
    Except Failure Nat → IntakeEnd × Intake Sock
  | .ok 0 => (.failed .readEof, intake)
  | .ok (_ + 1) => intake.run transport
  | .error (.io .wouldBlock) => (.blocked, intake)
  | .error (.io .interrupted) => intake.run transport
  | .error failure => (.failed (.readFailed failure), intake.noted failure)

section Run

variable {transport : Transport Net Sock} {intake next : Intake Sock} {parser : Parser}

theorem proceed_failure {failure : Failure} (blocked : failure ≠ .io .wouldBlock)
    (interrupted : failure ≠ .io .interrupted) :
    next.proceed transport (.error failure) =
      (.failed (.readFailed failure), next.noted failure) := by
  cases failure with
  | outOfMemory shortage => rfl
  | misuse rule => rfl
  | io error =>
      cases error with
      | wouldBlock => exact absurd rfl blocked
      | interrupted => exact absurd rfl interrupted
      | _ => rfl

theorem run_done (done : intake.batch.pending = 0) :
    intake.run transport = (.answered, intake) := by
  rw [run, dif_pos done]

theorem run_complete {reply : Reply} (busy : intake.batch.pending ≠ 0)
    (ran : intake.parser.run intake.batch.readBuffer.filled = (parser, .complete reply)) :
    intake.run transport =
      run transport { intake with parser := parser, batch := intake.batch.answer reply } := by
  rw [run, dif_neg busy, ran]

theorem run_malformed {error : ParseError} (busy : intake.batch.pending ≠ 0)
    (ran : intake.parser.run intake.batch.readBuffer.filled = (parser, .malformed error)) :
    intake.run transport = (.failed .malformedReply, { intake with parser := parser }) := by
  rw [run, dif_neg busy, ran]

theorem run_incomplete {result : Except Failure Nat} (busy : intake.batch.pending ≠ 0)
    (ran : intake.parser.run intake.batch.readBuffer.filled = (parser, .incomplete))
    (received : receive transport { intake with parser := parser } = (result, next)) :
    intake.run transport = next.proceed transport result := by
  rw [run, dif_neg busy, ran]
  dsimp only
  split
  all_goals
    rename_i got
    rw [received] at got
    cases got
  · rfl
  · rfl
  · rfl
  · rfl
  · rename_i blocked interrupted
    exact (proceed_failure blocked interrupted).symm

end Run

theorem proceed_of_asksAgain {transport : Transport Net Sock} {next : Intake Sock}
    {result : Except Failure Nat} (again : asksAgain result = true) :
    next.proceed transport result = next.run transport := by
  rcases result with failure | _ | count
  · cases failure with
    | io error =>
        cases error with
        | interrupted => rfl
        | _ => cases again
    | _ => cases again
  · cases again
  · rfl

def heard (transport : Transport Net Sock) (intake : Intake Sock) : ByteArray :=
  if intake.batch.pending = 0 then .empty
  else
    match intake.parser.run intake.batch.readBuffer.filled with
    | (parser, .complete reply) =>
        heard transport { intake with parser := parser, batch := intake.batch.answer reply }
    | (_, .malformed _) => .empty
    | (parser, .incomplete) =>
        let bytes := Buffer.delivered transport.receive intake.socket
          ⟨intake.batch.readBuffer, intake.memory⟩
        let answer := receive transport { intake with parser := parser }
        if _again : asksAgain answer.1 then bytes ++ heard transport answer.2 else bytes
termination_by
  (intake.batch.pending, intake.batch.readBuffer.roomLeft, transport.patience intake.socket)
decreasing_by
  · exact Prod.Lex.left _ _ (by simp only [Batch.answer]; omega)
  · obtain ⟨same, less | ⟨kept, less⟩⟩ := less_of_asksAgain _again
    · rw [same]
      exact Prod.Lex.right _ (Prod.Lex.left _ _ less)
    · rw [same, kept]
      exact Prod.Lex.right _ (Prod.Lex.right _ less)

theorem heard_of_asksAgain {transport : Transport Net Sock} {intake next : Intake Sock}
    {parser : Parser} {result : Except Failure Nat} (busy : intake.batch.pending ≠ 0)
    (ran : intake.parser.run intake.batch.readBuffer.filled = (parser, .incomplete))
    (received : receive transport { intake with parser := parser } = (result, next))
    (again : asksAgain result = true) :
    intake.heard transport =
      Buffer.delivered transport.receive intake.socket ⟨intake.batch.readBuffer, intake.memory⟩ ++
        next.heard transport := by
  rw [heard, if_neg busy, ran]
  dsimp only
  rw [received, dif_pos again]

theorem heard_of_stops {transport : Transport Net Sock} {intake next : Intake Sock}
    {parser : Parser} {result : Except Failure Nat} (busy : intake.batch.pending ≠ 0)
    (ran : intake.parser.run intake.batch.readBuffer.filled = (parser, .incomplete))
    (received : receive transport { intake with parser := parser } = (result, next))
    (stops : asksAgain result = false) :
    intake.heard transport =
      Buffer.delivered transport.receive intake.socket
        ⟨intake.batch.readBuffer, intake.memory⟩ := by
  rw [heard, if_neg busy, ran]
  dsimp only
  rw [received, dif_neg (by rw [stops]; exact Bool.false_ne_true)]

structure Keeps (before after : Batch) : Prop where
  total : after.replies.size + after.pending = before.replies.size + before.pending
  abortText : after.abortText = before.abortText
  writeBuffer : after.writeBuffer = before.writeBuffer

theorem Keeps.trans {first second third : Batch} (one : Keeps first second)
    (two : Keeps second third) : Keeps first third :=
  ⟨two.total.trans one.total, two.abortText.trans one.abortText,
    two.writeBuffer.trans one.writeBuffer⟩

theorem keeps_answer {batch : Batch} (busy : batch.pending ≠ 0) (reply : Reply) :
    Keeps batch (batch.answer reply) := by
  refine ⟨?_, rfl, rfl⟩
  simp only [Batch.answer, Array.size_push]
  omega

theorem pending_answer {batch : Batch} (busy : batch.pending ≠ 0) (reply : Reply) :
    (batch.answer reply).pending + 1 = batch.pending :=
  Nat.sub_add_cancel (Nat.pos_of_ne_zero busy)

theorem keeps_receive {transport : Transport Net Sock} {intake next : Intake Sock}
    {result : Except Failure Nat} (received : intake.receive transport = (result, next)) :
    Keeps intake.batch next.batch := by
  cases received
  exact ⟨rfl, rfl, rfl⟩

theorem run_keeps (transport : Transport Net Sock) (intake : Intake Sock) :
    Keeps intake.batch (intake.run transport).2.batch := by
  fun_induction run transport intake with
  | case1 => exact ⟨rfl, rfl, rfl⟩
  | case2 intake busy parser reply ran ih => exact (keeps_answer busy reply).trans ih
  | case3 => exact ⟨rfl, rfl, rfl⟩
  | case4 intake busy parser ran next received =>
      have kept := keeps_receive received
      exact kept
  | case5 intake busy parser ran count next received ih => exact (keeps_receive received).trans ih
  | case6 intake busy parser ran next received =>
      have kept := keeps_receive received
      exact kept
  | case7 intake busy parser ran next received ih => exact (keeps_receive received).trans ih
  | case8 intake busy parser ran failure next _ _ received =>
      have kept := keeps_receive received
      exact kept

theorem pending_receive {transport : Transport Net Sock} {intake next : Intake Sock}
    {result : Except Failure Nat} (received : intake.receive transport = (result, next)) :
    next.batch.pending = intake.batch.pending := by
  cases received
  rfl

/-- Receiving says that all is answered just when it is. -/
theorem answered_iff (transport : Transport Net Sock) (intake : Intake Sock) :
    (intake.run transport).1 = .answered ↔ (intake.run transport).2.batch.pending = 0 := by
  fun_induction run transport intake with
  | case1 intake done => exact ⟨fun _ => done, fun _ => rfl⟩
  | case2 intake busy parser reply ran ih => exact ih
  | case3 intake busy parser error ran => exact ⟨nofun, fun none => absurd none busy⟩
  | case4 intake busy parser ran next received =>
      rw [pending_receive received]
      exact ⟨nofun, fun none => absurd none busy⟩
  | case5 intake busy parser ran count next received ih => exact ih
  | case6 intake busy parser ran next received =>
      rw [pending_receive received]
      exact ⟨nofun, fun none => absurd none busy⟩
  | case7 intake busy parser ran next received ih => exact ih
  | case8 intake busy parser ran failure next _ _ received =>
      have same := pending_receive received
      exact ⟨nofun, fun none => absurd (same.symm.trans none) busy⟩

structure Parsed (intake : Intake Sock) : Prop where
  inside : intake.batch.readBuffer.position ≤ intake.batch.readBuffer.capacity
  reads : Parser.Reaches {} intake.batch.readBuffer.filled
    ⟨intake.parser, intake.batch.replies.toList, none⟩

def Ends (after : Intake Sock) : IntakeEnd → Prop
  | .answered => after.Parsed
  | .blocked => after.Parsed ∧ after.parser.position = after.batch.readBuffer.filled.size
  | .failed _ => (Parser.read {} after.batch.readBuffer.filled.data.toList).replies =
      after.batch.replies.toList

variable {transport : Transport Net Sock} {intake next : Intake Sock}

theorem Parsed.sound (parsed : intake.Parsed) : intake.parser.Sound :=
  parsed.reads.sound Parser.sound_new

theorem Parsed.within (parsed : intake.Parsed) :
    intake.parser.position ≤ intake.batch.readBuffer.filled.size :=
  parsed.reads.inside (Nat.zero_le _)

theorem Parsed.run (parsed : intake.Parsed) {parser : Parser} {progress : Progress}
    (ran : intake.parser.run intake.batch.readBuffer.filled = (parser, progress)) :
    Parser.Reaches {} intake.batch.readBuffer.filled
      ⟨parser, intake.batch.replies.toList ++ progress.replies, progress.error⟩ := by
  have more := Parser.reaches_run parsed.sound parsed.within
  rw [ran] at more
  exact parsed.reads.trans more

theorem Parsed.answer (parsed : intake.Parsed) {parser : Parser} {reply : Reply}
    (ran : intake.parser.run intake.batch.readBuffer.filled = (parser, .complete reply)) :
    Parsed { intake with parser := parser, batch := intake.batch.answer reply } := by
  refine ⟨parsed.inside, ?_⟩
  have reads := parsed.run ran
  rw [Progress.replies, ← Array.toList_push] at reads
  exact reads

theorem Parsed.incomplete (parsed : intake.Parsed) {parser : Parser}
    (ran : intake.parser.run intake.batch.readBuffer.filled = (parser, .incomplete)) :
    Parser.Reaches {} intake.batch.readBuffer.filled
      ⟨parser, intake.batch.replies.toList, none⟩ := by
  have reads := parsed.run ran
  simp only [Progress.replies, Progress.error, List.append_nil] at reads
  exact reads

theorem reaches_append {parser : Parser} {data : ByteArray} {outcome : Reading}
    (inside : parser.position ≤ data.size) (reached : parser.Reaches data outcome)
    (more : ByteArray) : parser.Reaches (data ++ more) outcome := by
  have ends := reached.inside inside
  obtain ⟨taken, unread, position, reads⟩ := reached
  have longer : ∀ other : Parser, other.position ≤ data.size →
      other.unread (data ++ more) = other.unread data ++ more.data.toList := by
    intro other within
    rw [Parser.unread, ByteArray.data_append, Array.toList_append,
      List.drop_append_of_le_length (by simpa using within)]
    rfl
  refine ⟨taken, ?_, position, reads⟩
  rw [longer parser inside, longer _ ends, unread, List.append_assoc]

theorem receive_filled {result : Except Failure Nat}
    (inside : intake.batch.readBuffer.position ≤ intake.batch.readBuffer.capacity)
    (received : intake.receive transport = (result, next)) :
    next.batch.readBuffer.filled = intake.batch.readBuffer.filled ++
        Buffer.delivered transport.receive intake.socket
          ⟨intake.batch.readBuffer, intake.memory⟩ ∧
      next.batch.readBuffer.position ≤ next.batch.readBuffer.capacity ∧
      result.toOption.getD 0 = (Buffer.delivered transport.receive intake.socket
        ⟨intake.batch.readBuffer, intake.memory⟩).size := by
  cases got : Buffer.receive transport.receive intake.socket
      ⟨intake.batch.readBuffer, intake.memory⟩ with
  | mk answer rest =>
      obtain ⟨after, later⟩ := rest
      unfold Intake.receive at received
      dsimp only at received
      rw [got] at received
      cases received
      have filled := Buffer.receive_filled inside got
      exact filled

theorem parser_receive {result : Except Failure Nat}
    (received : intake.receive transport = (result, next)) : next.parser = intake.parser := by
  cases received
  rfl

theorem replies_receive {result : Except Failure Nat}
    (received : intake.receive transport = (result, next)) :
    next.batch.replies = intake.batch.replies := by
  cases received
  rfl

theorem Parsed.receive (parsed : intake.Parsed) {parser : Parser} {result : Except Failure Nat}
    (ran : intake.parser.run intake.batch.readBuffer.filled = (parser, .incomplete))
    (received : Intake.receive transport { intake with parser := parser } = (result, next)) :
    next.Parsed ∧
      next.batch.readBuffer.filled = intake.batch.readBuffer.filled ++
        Buffer.delivered transport.receive intake.socket
          ⟨intake.batch.readBuffer, intake.memory⟩ ∧
      result.toOption.getD 0 = (Buffer.delivered transport.receive intake.socket
        ⟨intake.batch.readBuffer, intake.memory⟩).size := by
  have reads := parsed.incomplete ran
  have inside : ({ intake with parser := parser } : Intake Sock).batch.readBuffer.position ≤
      intake.batch.readBuffer.capacity := parsed.inside
  obtain ⟨filled, inside', size⟩ := receive_filled inside received
  refine ⟨⟨inside', ?_⟩, filled, size⟩
  rw [filled, parser_receive received, replies_receive received]
  exact reaches_append (Nat.zero_le _) reads _

theorem Parsed.read_all (parsed : intake.Parsed)
    (done : intake.parser.position = intake.batch.readBuffer.filled.size) :
    Parser.read {} intake.batch.readBuffer.filled.data.toList =
      ⟨intake.parser, intake.batch.replies.toList, none⟩ :=
  parsed.reads.read_eq fun _ => done

theorem Parsed.quiet (parsed : intake.Parsed) {parser : Parser} {result : Except Failure Nat}
    (ran : intake.parser.run intake.batch.readBuffer.filled = (parser, .incomplete))
    (received : Intake.receive transport { intake with parser := parser } = (result, next))
    (nothing : result.toOption.getD 0 = 0) :
    next.batch.readBuffer.filled = intake.batch.readBuffer.filled ++
        Buffer.delivered transport.receive intake.socket
          ⟨intake.batch.readBuffer, intake.memory⟩ ∧
      next.Parsed ∧ next.parser.position = next.batch.readBuffer.filled.size := by
  obtain ⟨later, filled, size⟩ := parsed.receive ran received
  refine ⟨filled, later, ?_⟩
  have position := Parser.position_of_incomplete parsed.sound parsed.within ran
  rw [parser_receive received, position, filled, ByteArray.size_append]
  omega

/-- Received bytes are kept, and receiving ends as it should. -/
theorem run_parsed (transport : Transport Net Sock) {intake : Intake Sock}
    (parsed : intake.Parsed) :
    (intake.run transport).2.batch.readBuffer.filled =
        intake.batch.readBuffer.filled ++ intake.heard transport ∧
      (intake.run transport).2.batch.readBuffer.position ≤
        (intake.run transport).2.batch.readBuffer.capacity ∧
      Ends (intake.run transport).2 (intake.run transport).1 := by
  fun_induction run transport intake with
  | case1 intake done =>
      rw [heard, if_pos done, ByteArray.append_empty]
      exact ⟨rfl, parsed.inside, parsed⟩
  | case2 intake busy parser reply ran ih =>
      have later := ih (parsed.answer ran)
      rw [heard, if_neg busy, ran]
      exact later
  | case3 intake busy parser error ran =>
      rw [heard, if_neg busy, ran, ByteArray.append_empty]
      refine ⟨rfl, parsed.inside, ?_⟩
      have reads := (parsed.run ran).read_eq nofun
      have replies := congrArg Reading.replies reads
      simp only [Progress.replies, List.append_nil] at replies
      exact replies
  | case4 intake busy parser ran next received =>
      obtain ⟨filled, later, done⟩ := parsed.quiet ran received rfl
      rw [heard_of_stops busy ran received rfl]
      refine ⟨filled, later.inside, ?_⟩
      have reads := congrArg Reading.replies (later.read_all done)
      exact reads
  | case5 intake busy parser ran count next received ih =>
      obtain ⟨later, filled, _⟩ := parsed.receive ran received
      obtain ⟨all, rest⟩ := ih later
      rw [heard_of_asksAgain busy ran received rfl, all, filled, ByteArray.append_assoc]
      exact ⟨rfl, rest⟩
  | case6 intake busy parser ran next received =>
      obtain ⟨filled, later, done⟩ := parsed.quiet ran received rfl
      rw [heard_of_stops busy ran received rfl]
      exact ⟨filled, later.inside, later, done⟩
  | case7 intake busy parser ran next received ih =>
      obtain ⟨later, filled, _⟩ := parsed.receive ran received
      obtain ⟨all, rest⟩ := ih later
      rw [heard_of_asksAgain busy ran received rfl, all, filled, ByteArray.append_assoc]
      exact ⟨rfl, rest⟩
  | case8 intake busy parser ran failure next _ other received =>
      obtain ⟨filled, later, done⟩ := parsed.quiet ran received rfl
      rw [heard_of_stops busy ran received (stops_of_failure other)]
      refine ⟨filled, later.inside, ?_⟩
      have reads := congrArg Reading.replies (later.read_all done)
      exact reads

end Intake

end Fanout
