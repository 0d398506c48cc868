import Fanout.Proofs.Delivery
import Fanout.Proofs.Ledger
import Fanout.Proofs.Session

/-!
The books of a batch. Every command that a successful call counted is answered or pending, a call
that fails changes neither, and replies are only ever appended until the batch is emptied.
-/

set_option autoImplicit false

namespace Fanout

namespace Batch

variable {admits : Buffer → Reply → Prop} {bytes : ByteArray}
  {before middle after state : Metered Batch}

/-! ### What is kept until the batch is emptied -/

structure Appends (before after : Batch) : Prop where
  replies : before.replies.toList <+: after.replies.toList
  abortText : ∀ {text : String}, before.abortText = some text → after.abortText = some text

theorem Appends.refl (batch : Batch) : Appends batch batch := ⟨List.prefix_refl _, id⟩

theorem Appends.trans {first second third : Batch} (one : Appends first second)
    (two : Appends second third) : Appends first third :=
  ⟨one.replies.trans two.replies, fun aborted => two.abortText (one.abortText aborted)⟩

theorem Change.appends (change : Change admits before bytes after) :
    Appends before.item after.item := by
  cases change with
  | flipped =>
      unfold startSending
      split <;> exact ⟨List.prefix_refl _, id⟩
  | @answered reply busy admitted =>
      refine ⟨?_, id⟩
      unfold answer
      rw [Array.toList_push]
      exact List.prefix_append _ _
  | failed text plain =>
      refine ⟨?_, fun aborted => ?_⟩
      · unfold failPending
        rw [Array.toList_append]
        exact List.prefix_append _ _
      · rw [plain] at aborted
        cases aborted
  | _ => exact ⟨List.prefix_refl _, id⟩

theorem Changes.appends (changes : Changes admits before bytes after) :
    Appends before.item after.item :=
  @Changes.kept _ _ _ _ (fun state => Appends before.item state.item) changes (.refl before.item)
    fun appended change => appended.trans change.appends

def Writable (batch : Batch) : Prop := batch.sent = true ∨ ∃ content, batch.Holds content

theorem Change.writable (change : Change admits before bytes after)
    (writable : before.item.Writable) : after.item.Writable := by
  rcases writable with sent | ⟨content, holds⟩
  · refine .inl ?_
    cases change with
    | flipped =>
        unfold startSending
        rw [if_pos sent]
        exact sent
    | _ => exact sent
  · obtain ⟨unsent, buffer⟩ := holds
    cases change with
    | @sendRoom amount ready ensured =>
        have made : ready.item.Holds content :=
          Buffer.Holds.ensured (show (sending before).item.Holds content from buffer) ensured
        exact .inr ⟨content, unsent, made⟩
    | written bytes fits => exact .inr ⟨_, unsent, buffer.store fits.room⟩
    | flipped =>
        refine .inl ?_
        unfold startSending
        rw [unsent]
        rfl
    | sent position within =>
        have inside : position ≤ before.item.writeBuffer.capacity := by
          have stored := buffer.inside
          have writeMode := buffer.writeMode
          omega
        exact .inr ⟨_, unsent, rfl, buffer.writeMode, inside⟩
    | _ => exact .inr ⟨content, unsent, buffer⟩

theorem Changes.writable (changes : Changes admits before bytes after)
    (writable : before.item.Writable) : after.item.Writable :=
  @Changes.kept _ _ _ _ (fun state => state.item.Writable) changes writable
    fun kept change => change.writable kept

/-! ### Accounts -/

def Use.commands : Use → Nat
  | .write _ commands => commands
  | .command _ => 1
  | _ => 0

/-- The commands that a use counts as things stand. -/
def Use.charged (state : Metered Batch) (use : Use) : Nat :=
  match use.operation state with
  | .ok _ _ => use.commands
  | .error _ _ => 0

def Calm {α : Type} (operation : Operation α) : Prop :=
  ∀ state, (operation.leaves state).item.replies = state.item.replies ∧
    (operation.leaves state).item.pending = state.item.pending

theorem Counts.charged {commands : Nat} {operation : Operation Unit}
    (counts : Counts commands operation) (value : Unit → Answer) (state : Metered Batch) :
    ((value <$> operation).leaves state).item.total =
      state.item.total + match (value <$> operation) state with
        | .ok _ _ => commands
        | .error _ _ => 0 := by
  have taken := counts state
  simp only [Attempt.leaves, Functor.map, EStateM.map]
  cases ran : operation state with
  | ok done after =>
      rw [ran] at taken
      exact taken
  | error failure after =>
      rw [ran] at taken
      exact taken

theorem Calm.total {α : Type} {operation : Operation α} (calm : Calm operation)
    (state : Metered Batch) : (operation.leaves state).item.total = state.item.total := by
  unfold Batch.total
  rw [(calm state).1, (calm state).2]

theorem Calm.map {α β : Type} {operation : Operation α} (calm : Calm operation) (value : α → β) :
    Calm (value <$> operation) := by
  intro state
  rw [leaves_map]
  exact calm state

theorem calm_sendOnce (answer : SendAnswer) : Calm (sendOnce answer) := by
  intro state
  unfold Attempt.leaves sendOnce
  dsimp only
  cases (state.item.writeBuffer.send (fun (_ : Unit) _ => (answer, ())) ()).1 <;> exact ⟨rfl, rfl⟩

theorem calm_receiveOnce (answer : ReceiveAnswer) : Calm (receiveOnce answer) := by
  intro state
  unfold Attempt.leaves receiveOnce
  dsimp only
  cases (Buffer.receive (fun (_ : Unit) _ => (answer, ())) () (receiving state)).1 <;>
    exact ⟨rfl, rfl⟩

theorem calm_onReadBuffer {α : Type} (operation : Buffer.Operation α) :
    Calm (onReadBuffer operation) := by
  intro state
  unfold Attempt.leaves onReadBuffer Attempt.within
  cases operation ⟨state.item.readBuffer, state.memory⟩ <;> exact ⟨rfl, rfl⟩

theorem calm_nextReply : Calm nextReply := by
  intro state
  unfold Attempt.leaves nextReply
  cases state.item.cursor.advance state.item.replies with
  | none => exact ⟨rfl, rfl⟩
  | some step =>
      obtain ⟨visit, cursor⟩ := step
      dsimp only
      cases state.item.entry visit <;> exact ⟨rfl, rfl⟩

theorem calm_drain : Calm drain := by
  intro state
  unfold Attempt.leaves drain
  dsimp only
  cases (state.item.cursor.walk state.item.replies).1.mapM state.item.entry <;> exact ⟨rfl, rfl⟩

theorem total_push (reply : Reply) (state : Metered Batch) :
    ((pushReply reply).leaves state).item.total = state.item.total := by
  unfold Attempt.leaves pushReply
  by_cases busy : state.item.hasPending = true
  · have pending : 0 < state.item.pending := of_decide_eq_true busy
    rw [if_pos busy]
    simp only [total, answer, Array.size_push]
    omega
  · rw [if_neg busy]

theorem Use.charged_of_free {use : Use} (free : use.commands = 0) (state : Metered Batch) :
    use.charged state = 0 := by
  unfold charged
  split
  · exact free
  · rfl

/-- A use brings as many commands as it counts. -/
theorem Use.total (use : Use) (state : Metered Batch) :
    (use.operation.leaves state).item.total = state.item.total + use.charged state := by
  cases use with
  | write bytes commands => exact (counts_write bytes commands).charged _ state
  | command arguments => exact (counts_writeCommand arguments).charged _ state
  | decimal value => exact (counts_write _ 0).charged _ state
  | abort text => exact (counts_abort text).charged _ state
  | push reply =>
      rw [charged_of_free rfl, operation, leaves_map]
      exact total_push reply state
  | start =>
      rw [charged_of_free rfl]
      change state.item.startSending.total = state.item.total
      unfold startSending
      split <;> rfl
  | send answer =>
      rw [charged_of_free rfl]
      exact ((calm_sendOnce answer).map _).total state
  | receive answer =>
      rw [charged_of_free rfl]
      exact ((calm_receiveOnce answer).map _).total state
  | store bytes =>
      rw [charged_of_free rfl]
      exact ((calm_onReadBuffer _).map _).total state
  | next =>
      rw [charged_of_free rfl]
      exact (calm_nextReply.map _).total state
  | drain =>
      rw [charged_of_free rfl]
      exact (calm_drain.map _).total state

/-! ### Refusals -/

theorem error_of_map {α β : Type} {operation : Operation α} {value : α → β} {failure : Failure}
    (refused : (value <$> operation) state = .error failure after) :
    operation state = .error failure after := by
  simp only [Functor.map, EStateM.map] at refused
  split at refused
  · cases refused
  · rename_i same
    cases refused
    exact same

theorem map_of_error {α β : Type} {operation : Operation α} (value : α → β) {failure : Failure}
    (refused : operation state = .error failure after) :
    (value <$> operation) state = .error failure after := by
  simp only [Functor.map, EStateM.map, refused]

theorem Calm.refused {α : Type} {operation : Operation α} (calm : Calm operation)
    {failure : Failure} (refused : operation state = .error failure after) :
    after.item.replies = state.item.replies ∧ after.item.pending = state.item.pending := by
  have kept := calm state
  unfold Attempt.leaves at kept
  rwa [refused] at kept

/-- What is written into a batch after it was sent is refused. -/
theorem write_of_sent (sent : state.item.sent = true) (bytes : ByteArray) (commands : Nat) :
    write bytes commands state = .error (.misuse .batchExecuted) state := by
  unfold write
  simp only [Bind.bind, EStateM.bind, requireUnsent, if_pos sent]

theorem writeCommand_of_sent (sent : state.item.sent = true) (arguments : List ByteArray) :
    ∃ failure, writeCommand arguments state = .error failure state := by
  cases arguments with
  | nil => exact ⟨_, rfl⟩
  | cons argument others =>
      refine ⟨.misuse .batchExecuted, ?_⟩
      unfold writeCommand
      simp only [List.isEmpty_cons, Bool.false_eq_true, if_false, Bind.bind, EStateM.bind,
        requireUnsent, if_pos sent]

/-- A write that fails answers nothing and leaves as many commands pending, also when its own were
too many to count. -/
theorem write_refused (writable : state.item.Writable) {bytes : ByteArray} {commands : Nat}
    {failure : Failure} (refused : write bytes commands state = .error failure after) :
    after.item.replies = state.item.replies ∧ after.item.pending = state.item.pending := by
  rcases writable with sent | ⟨content, holds⟩
  · rw [write_of_sent sent] at refused
    cases refused
    exact ⟨rfl, rfl⟩
  · obtain ⟨rfl, _⟩ | ⟨_, _, _, extended⟩ := write_error holds refused
    · exact ⟨rfl, rfl⟩
    · exact ⟨extended.replies, extended.pending⟩

theorem writeCommand_refused (writable : state.item.Writable) {arguments : List ByteArray}
    {failure : Failure} (refused : writeCommand arguments state = .error failure after) :
    after.item.replies = state.item.replies ∧ after.item.pending = state.item.pending := by
  rcases writable with sent | ⟨content, holds⟩
  · obtain ⟨other, same⟩ := writeCommand_of_sent sent arguments
    rw [same] at refused
    cases refused
    exact ⟨rfl, rfl⟩
  · rcases writeCommand_cases holds arguments with
      ⟨_, wrote, _⟩ | ⟨_, kept, _⟩ | ⟨_, beyond, _, _, _, extended⟩
    · cases wrote.symm.trans refused
    · cases kept.symm.trans refused
      exact ⟨rfl, rfl⟩
    · cases beyond.symm.trans refused
      exact ⟨extended.replies, extended.pending⟩

/-- The count does not go beyond a machine word. -/
theorem write_beyond_word (writable : state.item.Writable) (bytes : ByteArray) {commands : Nat}
    (beyond : largestWord < state.item.pending + commands) :
    ∃ failure after, write bytes commands state = .error failure after := by
  cases wrote : write bytes commands state with
  | error failure after => exact ⟨failure, after, rfl⟩
  | ok value after =>
      rcases writable with sent | ⟨content, holds⟩
      · rw [write_of_sent sent] at wrote
        cases wrote
      · have counted := (write_ok holds wrote).2.pending
        have countable := after.item.countable
        omega

/-- A use that fails answers nothing and leaves as many commands pending. -/
theorem Use.refused (use : Use) (writable : state.item.Writable) {failure : Failure}
    (refused : use.operation state = .error failure after) :
    after.item.replies = state.item.replies ∧ after.item.pending = state.item.pending := by
  cases use with
  | write bytes commands => exact write_refused writable (error_of_map refused)
  | decimal value => exact write_refused writable (error_of_map refused)
  | command arguments => exact writeCommand_refused writable (error_of_map refused)
  | start => cases refused
  | send answer => exact (calm_sendOnce answer).refused (error_of_map refused)
  | receive answer => exact (calm_receiveOnce answer).refused (error_of_map refused)
  | store bytes => exact (calm_onReadBuffer _).refused (error_of_map refused)
  | push reply =>
      have kept := error_of_map refused
      unfold pushReply at kept
      split at kept <;> cases kept
      exact ⟨rfl, rfl⟩
  | abort text =>
      have kept := error_of_map refused
      unfold Batch.abort at kept
      split at kept <;> cases kept
      exact ⟨rfl, rfl⟩
  | next => exact calm_nextReply.refused (error_of_map refused)
  | drain => exact calm_drain.refused (error_of_map refused)

/-! ### Uses one after the other -/

inductive Started : Metered Batch → Prop where
  | made (config : Config) (memory : MemoryStats) : Started (allocate config memory)
  | emptied (used : Metered Batch) : Started (reset used)

/-- What uses leave, whether they succeed or not. -/
def useAll (uses : List Use) (state : Metered Batch) : Metered Batch :=
  uses.foldl (fun state use => use.operation.leaves state) state

/-- The commands that uses count, one after the other. -/
def counted (state : Metered Batch) : List Use → Nat
  | [] => 0
  | use :: uses => use.charged state + counted (use.operation.leaves state) uses

theorem use_changes (use : Use) (state : Metered Batch) :
    Changes unchecked state (use.delivers state) (use.operation.leaves state) :=
  use.changes (by cases use <;> trivial)

theorem useAll_total (uses : List Use) (state : Metered Batch) :
    (useAll uses state).item.total = state.item.total + counted state uses := by
  induction uses generalizing state with
  | nil => rfl
  | cons use uses ih =>
      have rest := ih (use.operation.leaves state)
      rw [use.total, Nat.add_assoc] at rest
      exact rest

theorem useAll_appends (uses : List Use) (state : Metered Batch) :
    Appends state.item (useAll uses state).item := by
  induction uses generalizing state with
  | nil => exact .refl _
  | cons use uses ih => exact (use_changes use state).appends.trans (ih _)

theorem useAll_writable (uses : List Use) (writable : state.item.Writable) :
    (useAll uses state).item.Writable := by
  induction uses generalizing state with
  | nil => exact writable
  | cons use uses ih => exact ih ((use_changes use state).writable writable)

theorem Started.writable (started : Started state) : state.item.Writable := by
  cases started with
  | made config memory => exact .inr ⟨_, holds_allocate config memory⟩
  | emptied used => exact .inr ⟨_, holds_reset used⟩

theorem Started.total (started : Started state) : state.item.total = 0 := by
  cases started <;> rfl

/-- Since a batch was made or emptied, the replies and the pending commands are as many as the calls
that succeeded have counted; a call that fails changes neither, and no reply is taken back. A write
whose commands are too many for the count fails. An abort answers every pending command, and what it
answers reads as its text from then on. -/
theorem uses_account {start : Metered Batch} (started : Started start) (uses : List Use) :
    let state := useAll uses start
    state.item.replies.size + state.item.pending = counted start uses ∧
      (∀ (use : Use) (failure : Failure) (after : Metered Batch),
        use.operation state = .error failure after →
          after.item.replies = state.item.replies ∧ after.item.pending = state.item.pending) ∧
      (∀ (bytes : ByteArray) (commands : Nat),
        largestWord < state.item.pending + commands →
          ∃ failure after, (Use.write bytes commands).operation state = .error failure after) ∧
      (∀ more : List Use,
        state.item.replies.toList <+: (useAll more state).item.replies.toList) ∧
      ∀ text : String, state.item.isAborted = false →
        ∃ after, abort text state = .ok () after ∧ after.item.pending = 0 ∧
          after.item.replies = state.item.replies ++
            Array.replicate state.item.pending (.aborted text.utf8ByteSize) ∧
          ∀ more : List Use, (useAll more after).item.replyData (.aborted text.utf8ByteSize) =
            .ok (some text.toUTF8) := by
  intro state
  have writable : state.item.Writable := useAll_writable uses started.writable
  refine ⟨?_, ?_, ?_, ?_, ?_⟩
  · have total := useAll_total uses start
    rw [started.total, Nat.zero_add] at total
    exact total
  · intro use failure after refused
    exact use.refused writable refused
  · intro bytes commands beyond
    obtain ⟨failure, after, refused⟩ := write_beyond_word writable bytes beyond
    exact ⟨failure, after, map_of_error _ refused⟩
  · intro more
    exact (useAll_appends more state).replies
  · intro text plain
    have failed : abort text state =
        .ok () { state with item := state.item.failPending text } := by
      unfold abort
      rw [plain]
      rfl
    refine ⟨_, failed, rfl, rfl, ?_⟩
    intro more
    have kept := (useAll_appends more { state with item := state.item.failPending text }).abortText
      rfl
    exact replyData_aborted kept

/-- Two commands are sent and one is answered; a third comes too late, and a fourth has no
arguments. -/
def lateUses : List Use :=
  [.write ⟨#[43, 13, 10]⟩ 2, .start, .write ⟨#[43, 13, 10]⟩ 1, .push (.single .nil), .command []]

theorem uses_account_late :
    let state := useAll lateUses (allocate { writeBufferSize := 4, readBufferSize := 1 } {})
    state.item.replies.size + state.item.pending = 2 ∧
      ∃ after, abort "gone" state = .ok () after ∧ after.item.pending = 0 ∧
        after.item.replies = #[.single .nil, .aborted 4] ∧
        ∀ more : List Use,
          (useAll more after).item.replyData (.aborted 4) = .ok (some "gone".toUTF8) := by
  obtain ⟨total, _, _, _, aborts⟩ := uses_account
    (.made { writeBufferSize := 4, readBufferSize := 1 } {}) lateUses
  obtain ⟨after, done, none, replies, reads⟩ := aborts "gone" (by decide +kernel)
  refine ⟨total.trans (by decide +kernel), after, done, none, replies.trans ?_, reads⟩
  decide +kernel

end Batch

end Fanout
