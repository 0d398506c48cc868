import Fanout.Batch.Traversal
import Fanout.Proofs.Writing

/-!
What can become of a batch, said once. Whatever is done with a batch is a sequence of changes, and
each change is one thing that happens to one of its parts: room is made or bytes are stored in a
buffer, a command is counted or answered, the batch is aborted. What holds of every use of a batch
is shown of every change.
-/

set_option autoImplicit false

namespace Fanout

/-- The state that an operation leaves behind, whether it succeeds or not. -/
def Attempt.leaves {σ α : Type} (operation : Attempt σ α) (state : σ) : σ :=
  match operation state with
  | .ok _ after => after
  | .error _ after => after

namespace Buffer

structure Fits (bytes : ByteArray) (buffer : Buffer) : Prop where
  writeMode : buffer.limit = buffer.capacity
  room : bytes.size ≤ buffer.remaining

variable {bytes : ByteArray} {amount : Nat} {buffer : Buffer} {state ready : Metered Buffer}

theorem Fits.capacity (fits : buffer.Fits bytes) :
    (buffer.store bytes).capacity = buffer.capacity := by
  obtain ⟨writeMode, room⟩ := fits
  unfold remaining at room
  simp only [Buffer.capacity, store, ByteArray.size_append, ByteArray.size_extract] at writeMode ⊢
  omega

theorem fits_of_ensured (ensured : ensureRemaining amount state = .ok () ready)
    (enough : bytes.size ≤ amount) : ready.item.Fits bytes :=
  ⟨(ensureRemaining_ok ensured).2.1, Nat.le_trans enough (ensureRemaining_room ensured)⟩

/-- Sending moves the position of a buffer and nothing else, and not beyond the limit. -/
theorem send_position {σ : Type} (buffer : Buffer) (sink : σ → ByteArray → SendAnswer × σ)
    (peer : σ) :
    ∃ position ≤ max buffer.position buffer.limit,
      (buffer.send sink peer).2.1 = { buffer with position := position } := by
  unfold send
  split
  · rename_i count later answer
    refine ⟨buffer.position + min count buffer.remaining, ?_, rfl⟩
    unfold remaining
    omega
  · exact ⟨buffer.position, Nat.le_max_left _ _, rfl⟩

end Buffer

namespace Batch

theorem abortText_of_unaborted {batch : Batch} (plain : batch.isAborted = false) :
    batch.abortText = none :=
  Option.isNone_iff_eq_none.mp (Option.isSome_eq_false_iff.mp plain)

def receiving (state : Metered Batch) : Metered Buffer := ⟨state.item.readBuffer, state.memory⟩

def withReadBuffer (state : Metered Batch) (changed : Metered Buffer) : Metered Batch :=
  ⟨{ state.item with readBuffer := changed.item }, changed.memory⟩

/-- One thing that happens to a batch, marked with the bytes that it receives. What it takes for a
reply is admitted in view of its receive buffer. -/
inductive Change (admits : Buffer → Reply → Prop) (before : Metered Batch) :
    ByteArray → Metered Batch → Prop where
  | sendRoom {amount : Nat} {ready : Metered Buffer}
      (ensured : Buffer.ensureRemaining amount (sending before) = .ok () ready) :
      Change admits before .empty (withSending before ready)
  | written (bytes : ByteArray) (fits : before.item.writeBuffer.Fits bytes) :
      Change admits before .empty
        { before with item :=
          { before.item with writeBuffer := before.item.writeBuffer.store bytes } }
  | counted (commands : Nat) (countable : before.item.pending + commands ≤ largestWord) :
      Change admits before .empty
        { before with item :=
          { before.item with
            pending := before.item.pending + commands
            countable := countable } }
  | flipped : Change admits before .empty { before with item := before.item.startSending }
  | sent (position : Nat)
      (within : position ≤ max before.item.writeBuffer.position before.item.writeBuffer.limit) :
      Change admits before .empty
        { before with item :=
          { before.item with writeBuffer :=
            { before.item.writeBuffer with position := position } } }
  | receiveRoom {amount : Nat} {ready : Metered Buffer}
      (ensured : Buffer.ensureRemaining amount (receiving before) = .ok () ready) :
      Change admits before .empty (withReadBuffer before ready)
  | received (bytes : ByteArray) (fits : before.item.readBuffer.Fits bytes) :
      Change admits before bytes
        { before with item :=
          { before.item with readBuffer := before.item.readBuffer.store bytes } }
  | answered {reply : Reply} (busy : 0 < before.item.pending)
      (admitted : admits before.item.readBuffer reply) :
      Change admits before .empty { before with item := before.item.answer reply }
  | failed (text : String) (plain : before.item.abortText = none) :
      Change admits before .empty { before with item := before.item.failPending text }
  | visited (cursor : Cursor) :
      Change admits before .empty { before with item := { before.item with cursor := cursor } }

inductive Changes (admits : Buffer → Reply → Prop) (before : Metered Batch) :
    ByteArray → Metered Batch → Prop where
  | refl : Changes admits before .empty before
  | step {bytes more : ByteArray} {middle after : Metered Batch}
      (changes : Changes admits before bytes middle) (change : Change admits middle more after) :
      Changes admits before (bytes ++ more) after

variable {admits : Buffer → Reply → Prop} {before middle after state : Metered Batch}
  {bytes more : ByteArray}

theorem Changes.one (change : Change admits before bytes after) :
    Changes admits before bytes after := by
  have changes := Changes.step .refl change
  rwa [ByteArray.empty_append] at changes

theorem Changes.trans (first : Changes admits before bytes middle)
    (second : Changes admits middle more after) : Changes admits before (bytes ++ more) after := by
  induction second with
  | refl =>
      rw [ByteArray.append_empty]
      exact first
  | step changes change ih =>
      rw [← ByteArray.append_assoc]
      exact .step ih change

/-- What every change keeps, all changes keep. -/
theorem Changes.kept {holds : Metered Batch → Prop} (changes : Changes admits before bytes after)
    (begins : holds before)
    (keeps : ∀ {middle after : Metered Batch} {bytes : ByteArray}, holds middle →
      Change admits middle bytes after → holds after) : holds after := by
  induction changes with
  | refl => exact begins
  | step changes change ih => exact keeps ih change

/-- The operation makes changes, whether it succeeds or not, and receives nothing. -/
def Makes {α : Type} (admits : Buffer → Reply → Prop) (operation : Operation α) : Prop :=
  ∀ state, Changes admits state .empty (operation.leaves state)

theorem Makes.bind {α β : Type} {first : Operation α} {second : α → Operation β}
    (one : Makes admits first) (two : ∀ value, Makes admits (second value)) :
    Makes admits (first >>= second) := by
  intro state
  have head := one state
  unfold Attempt.leaves at head ⊢
  simp only [Bind.bind, EStateM.bind]
  cases ran : first state with
  | error failure middle =>
      rw [ran] at head
      exact head
  | ok value middle =>
      rw [ran] at head
      have both := head.trans (two value middle)
      rw [ByteArray.empty_append] at both
      exact both

theorem makes_pure {α : Type} (value : α) : Makes admits (pure value) := fun _ => .refl

theorem makes_throw {α : Type} (failure : Failure) :
    Makes admits (throw failure : Operation α) := fun _ => .refl

theorem makes_requireUnsent : Makes admits requireUnsent := by
  intro state
  unfold Attempt.leaves requireUnsent
  cases state.item.sent <;> exact .refl

theorem makes_sendRoom (amount : Nat) :
    Makes admits (onWriteBuffer (Buffer.ensureRemaining amount)) := by
  intro state
  unfold Attempt.leaves onWriteBuffer Attempt.within
  cases ensured : Buffer.ensureRemaining amount ⟨state.item.writeBuffer, state.memory⟩ with
  | error failure kept =>
      rw [Buffer.ensureRemaining_error ensured]
      exact .refl
  | ok value ready => exact .one (.sendRoom ensured)

theorem makes_stored (bytes : ByteArray) :
    Makes admits (onWriteBuffer (Buffer.write bytes)) := by
  intro state
  unfold Attempt.leaves onWriteBuffer Attempt.within
  rw [Buffer.write_eq]
  cases ensured : Buffer.ensureRemaining bytes.size ⟨state.item.writeBuffer, state.memory⟩ with
  | error failure kept =>
      rw [Buffer.ensureRemaining_error ensured]
      exact .refl
  | ok value ready =>
      have fits := Buffer.fits_of_ensured ensured (Nat.le_refl bytes.size)
      exact .step (.one (.sendRoom ensured))
        (@Change.written admits (withSending state ready) bytes fits)

theorem makes_count (commands : Nat) : Makes admits (count commands) := by
  intro state
  unfold Attempt.leaves count
  by_cases countable : state.item.pending + commands ≤ largestWord
  · rw [dif_pos countable]
    exact .one (.counted commands countable)
  · rw [dif_neg countable]
    exact .refl

theorem makes_write (bytes : ByteArray) (commands : Nat) :
    Makes admits (write bytes commands) := by
  apply makes_requireUnsent.bind
  intro _
  apply (makes_stored bytes).bind
  intro _
  exact makes_count commands

theorem makes_writeArguments (arguments : List ByteArray) :
    Makes admits (writeArguments arguments) := by
  induction arguments with
  | nil => exact makes_pure ()
  | cons argument others ih =>
      apply (makes_write _ _).bind
      intro _
      apply (makes_write _ _).bind
      intro _
      apply (makes_write _ _).bind
      intro _
      exact ih

theorem makes_writeCommand (arguments : List ByteArray) :
    Makes admits (writeCommand arguments) := by
  unfold writeCommand
  cases arguments.isEmpty with
  | true => exact makes_throw _
  | false =>
      apply makes_requireUnsent.bind
      intro _
      apply (makes_sendRoom _).bind
      intro _
      apply (makes_write _ _).bind
      intro _
      exact makes_writeArguments arguments

theorem makes_abort (text : String) : Makes admits (abort text) := by
  intro state
  unfold Attempt.leaves abort
  cases aborted : state.item.isAborted with
  | true => exact .refl
  | false => exact .one (.failed text (abortText_of_unaborted aborted))

theorem makes_nextReply : Makes admits nextReply := by
  intro state
  unfold Attempt.leaves nextReply
  cases state.item.cursor.advance state.item.replies with
  | none => exact .refl
  | some step =>
      obtain ⟨visit, cursor⟩ := step
      dsimp only
      cases state.item.entry visit <;> exact .one (.visited cursor)

theorem makes_drain : Makes admits drain := by
  intro state
  unfold Attempt.leaves drain
  dsimp only
  cases (state.item.cursor.walk state.item.replies).1.mapM state.item.entry <;>
    exact .one (.visited _)

/-- Whatever comes of asking a source once. -/
theorem receive_changes {σ : Type} {source : σ → Nat → ReceiveAnswer × σ} {peer later : σ}
    {result : Except Failure Nat} {changed : Metered Buffer}
    (received : Buffer.receive source peer (receiving state) = (result, changed, later)) :
    Changes admits state (Buffer.delivered source peer (receiving state))
      (withReadBuffer state changed) := by
  unfold Buffer.receive at received
  unfold Buffer.delivered
  cases ensured : Buffer.ensureRemaining (receiving state).item.headroom (receiving state) with
  | error failure kept =>
      have same := Buffer.ensureRemaining_error ensured
      rw [ensured] at received
      cases failure <;> cases received <;> rw [same] <;> exact .refl
  | ok value ready =>
      rw [ensured] at received
      dsimp only at received ⊢
      have made : Changes admits state .empty (withReadBuffer state ready) :=
        .one (.receiveRoom ensured)
      cases answer : source peer ready.item.remaining with
      | mk said next =>
          rw [answer] at received
          cases said with
          | fails error =>
              cases received
              exact made
          | delivers bytes =>
              cases received
              have room : (bytes.extract 0 ready.item.remaining).size ≤ ready.item.remaining := by
                rw [ByteArray.size_extract]
                omega
              have stored := made.step (@Change.received admits (withReadBuffer state ready) _
                ⟨(Buffer.ensureRemaining_ok ensured).2.1, room⟩)
              rwa [ByteArray.empty_append] at stored

/-! ### Uses -/

inductive Use where
  | write (bytes : ByteArray) (commands : Nat)
  | command (arguments : List ByteArray)
  | decimal (value : Int)
  | start
  /-- Offers what is left to send to a sink that answers once. -/
  | send (answer : SendAnswer)
  /-- Asks a source that answers once for bytes. -/
  | receive (answer : ReceiveAnswer)
  /-- Puts bytes behind those that were received. -/
  | store (bytes : ByteArray)
  | push (reply : Reply)
  | abort (text : String)
  | next
  | drain

inductive Answer where
  | done
  | moved (count : Nat)
  | visited (entry : Option Entry)
  | listed (entries : List Entry)

def sendOnce (answer : SendAnswer) : Operation Nat := fun state =>
  let (result, buffer, _) := state.item.writeBuffer.send (fun (_ : Unit) _ => (answer, ())) ()
  let sent := { state with item := { state.item with writeBuffer := buffer } }
  match result with
  | .ok count => .ok count sent
  | .error error => .error (.io error) sent

def receiveOnce (answer : ReceiveAnswer) : Operation Nat := fun state =>
  let (result, changed, _) := Buffer.receive (fun (_ : Unit) _ => (answer, ())) () (receiving state)
  match result with
  | .ok count => .ok count (withReadBuffer state changed)
  | .error failure => .error failure (withReadBuffer state changed)

namespace Use

def operation : Use → Operation Answer
  | .write bytes commands => (fun _ => .done) <$> Batch.write bytes commands
  | .command arguments => (fun _ => .done) <$> writeCommand arguments
  | .decimal value => (fun _ => .done) <$> writeDecimal value
  | .start => fun state => .ok .done { state with item := state.item.startSending }
  | .send answer => .moved <$> sendOnce answer
  | .receive answer => .moved <$> receiveOnce answer
  | .store bytes => (fun _ => .done) <$> onReadBuffer (Buffer.write bytes)
  | .push reply => (fun _ => .done) <$> pushReply reply
  | .abort text => (fun _ => .done) <$> Batch.abort text
  | .next => .visited <$> nextReply
  | .drain => .listed <$> Batch.drain

def delivers (state : Metered Batch) : Use → ByteArray
  | .receive answer => Buffer.delivered (fun (_ : Unit) _ => (answer, ())) () (receiving state)
  | .store bytes =>
      match Buffer.ensureRemaining bytes.size (receiving state) with
      | .ok _ _ => bytes
      | .error _ _ => .empty
  | _ => .empty

def Admitted (admits : Buffer → Reply → Prop) (batch : Batch) : Use → Prop
  | .push reply => admits batch.readBuffer reply
  | _ => True

end Use

theorem leaves_map {α β : Type} (value : α → β) (operation : Operation α)
    (state : Metered Batch) : (value <$> operation).leaves state = operation.leaves state := by
  simp only [Attempt.leaves, Functor.map, EStateM.map]
  cases operation state <;> rfl

theorem sendOnce_changes (answer : SendAnswer) : Makes admits (sendOnce answer) := by
  intro state
  have moved := Buffer.send_position state.item.writeBuffer (fun (_ : Unit) _ => (answer, ())) ()
  unfold Attempt.leaves sendOnce
  generalize state.item.writeBuffer.send (fun (_ : Unit) _ => (answer, ())) () = sent at moved ⊢
  obtain ⟨result, buffer, later⟩ := sent
  obtain ⟨position, within, rfl⟩ := moved
  cases result <;> exact .one (.sent position within)

theorem receiveOnce_changes (answer : ReceiveAnswer) (state : Metered Batch) :
    Changes admits state ((Use.receive answer).delivers state)
      ((receiveOnce answer).leaves state) := by
  have changes := @receive_changes admits state _ (fun (_ : Unit) _ => (answer, ())) ()
  unfold Attempt.leaves receiveOnce Use.delivers
  cases received : Buffer.receive (fun (_ : Unit) _ => (answer, ())) () (receiving state) with
  | mk result rest =>
      obtain ⟨changed, later⟩ := rest
      cases result <;> exact changes received

theorem store_changes (bytes : ByteArray) (state : Metered Batch) :
    Changes admits state ((Use.store bytes).delivers state)
      (Attempt.leaves (onReadBuffer (Buffer.write bytes)) state) := by
  unfold Attempt.leaves onReadBuffer Attempt.within Use.delivers receiving
  dsimp only
  rw [Buffer.write_eq]
  cases ensured : Buffer.ensureRemaining bytes.size ⟨state.item.readBuffer, state.memory⟩ with
  | error failure kept =>
      rw [Buffer.ensureRemaining_error ensured]
      exact .refl
  | ok value ready =>
      have fits := Buffer.fits_of_ensured ensured (Nat.le_refl bytes.size)
      have stored := Changes.step (.one (.receiveRoom ensured))
        (@Change.received admits (withReadBuffer state ready) bytes fits)
      rw [ByteArray.empty_append] at stored
      exact stored

theorem push_changes {reply : Reply} (admitted : admits state.item.readBuffer reply) :
    Changes admits state .empty ((pushReply reply).leaves state) := by
  unfold Attempt.leaves pushReply
  by_cases busy : state.item.hasPending = true
  · rw [if_pos busy]
    exact .one (.answered (of_decide_eq_true busy) admitted)
  · rw [if_neg busy]
    exact .refl

/-- Every use of a batch is a sequence of changes. -/
theorem Use.changes (use : Use) (admitted : use.Admitted admits state.item) :
    Changes admits state (use.delivers state) (use.operation.leaves state) := by
  cases use
  case start => exact .one .flipped
  all_goals rw [operation, leaves_map]
  case write bytes commands => exact makes_write bytes commands state
  case command arguments => exact makes_writeCommand arguments state
  case decimal value => exact makes_write _ 0 state
  case send answer => exact sendOnce_changes answer state
  case receive answer => exact receiveOnce_changes answer state
  case store bytes => exact store_changes bytes state
  case push reply => exact push_changes admitted
  case abort text => exact makes_abort text state
  case next => exact makes_nextReply state
  case drain => exact makes_drain state

end Batch

end Fanout
