import Fanout.Batch.Basic

/-!
Command accounting. A ledger keeps, beside a batch, how many commands its calls have counted since
the last reset. Every counted command has a reply or is pending.
-/

set_option autoImplicit false

namespace Fanout

inductive Call where
  | write (bytes : ByteArray) (commands : Nat)
  | command (arguments : List ByteArray)
  | decimal (value : Int)
  | abort (text : String)
  | reset

structure Ledger where
  state : Metered Batch
  counted : Nat

namespace Batch

def total (batch : Batch) : Nat := batch.replies.size + batch.pending

/-- The operation takes `commands` more when it succeeds, and none when it fails. -/
def Counts (commands : Nat) (operation : Operation Unit) : Prop :=
  ∀ state,
    match operation state with
    | .ok _ after => after.item.total = state.item.total + commands
    | .error _ after => after.item.total = state.item.total

theorem Counts.bind {commands : Nat} {first second : Operation Unit} (quiet : Counts 0 first)
    (counts : Counts commands second) : Counts commands (first >>= fun _ => second) := by
  intro state
  have head := quiet state
  simp only [Bind.bind, EStateM.bind]
  cases ran : first state with
  | error failure middle =>
      rw [ran] at head
      exact head
  | ok value middle =>
      have tail := counts middle
      rw [ran] at head
      dsimp only at head ⊢
      rw [Nat.add_zero] at head
      rwa [head] at tail

theorem Counts.done {commands : Nat} {operation : Operation Unit}
    (counts : Counts commands operation) : Counts commands (operation >>= fun _ => pure ()) := by
  intro state
  have head := counts state
  simp only [Bind.bind, EStateM.bind]
  cases ran : operation state with
  | error failure middle =>
      rw [ran] at head
      exact head
  | ok value middle =>
      rw [ran] at head
      exact head

theorem counts_throw (commands : Nat) (failure : Failure) : Counts commands (throw failure) :=
  fun _ => rfl

theorem counts_requireUnsent : Counts 0 requireUnsent := by
  intro state
  unfold requireUnsent
  by_cases sent : state.item.sent = true
  · rw [if_pos sent]
  · rw [if_neg sent]
    rfl

theorem counts_onWriteBuffer (operation : Buffer.Operation Unit) :
    Counts 0 (onWriteBuffer operation) := by
  intro state
  unfold onWriteBuffer Attempt.within
  cases operation ⟨state.item.writeBuffer, state.memory⟩ with
  | ok value after => rfl
  | error failure after => rfl

theorem counts_count (commands : Nat) : Counts commands (count commands) := by
  intro state
  unfold count
  by_cases countable : state.item.pending + commands ≤ largestWord
  · rw [dif_pos countable]
    exact (Nat.add_assoc _ _ _).symm
  · rw [dif_neg countable]

theorem counts_write (bytes : ByteArray) (commands : Nat) :
    Counts commands (write bytes commands) := by
  apply counts_requireUnsent.bind
  apply (counts_onWriteBuffer _).bind
  exact counts_count commands

theorem counts_writeArguments (arguments : List ByteArray) :
    Counts (if arguments.isEmpty then 0 else 1) (writeArguments arguments) := by
  induction arguments with
  | nil => exact fun _ => rfl
  | cons argument others ih =>
      apply (counts_write _ 0).bind
      apply (counts_write _ 0).bind
      cases others with
      | nil => exact (counts_write _ 1).done
      | cons other others => exact (counts_write _ 0).bind ih

theorem counts_writeCommand (arguments : List ByteArray) :
    Counts 1 (writeCommand arguments) := by
  have writes : arguments.isEmpty = false → Counts 1 (writeArguments arguments) := by
    intro present
    have counts := counts_writeArguments arguments
    rwa [present, if_neg Bool.false_ne_true] at counts
  unfold writeCommand
  cases empty : arguments.isEmpty with
  | true => exact counts_throw 1 _
  | false =>
      apply counts_requireUnsent.bind
      apply (counts_onWriteBuffer _).bind
      apply (counts_write _ 0).bind
      exact writes empty

theorem counts_abort (text : String) : Counts 0 (abort text) := by
  intro state
  unfold abort
  by_cases aborted : state.item.isAborted = true
  · rw [if_pos aborted]
  · rw [if_neg aborted]
    simp only [total, failPending, Array.size_append, Array.size_replicate, Nat.add_zero]

end Batch

namespace Ledger

def allocate (config : Config) (memory : MemoryStats) : Ledger :=
  ⟨Batch.allocate config memory, 0⟩

def batch (ledger : Ledger) : Batch := ledger.state.item

def charge (ledger : Ledger) (operation : Batch.Operation Unit) (commands : Nat) : Ledger :=
  match operation ledger.state with
  | .ok () after => ⟨after, ledger.counted + commands⟩
  | .error _ after => ⟨after, ledger.counted⟩

def perform (ledger : Ledger) : Call → Ledger
  | .write bytes commands => ledger.charge (Batch.write bytes commands) commands
  | .command arguments => ledger.charge (Batch.writeCommand arguments) 1
  | .decimal value => ledger.charge (Batch.writeDecimal value) 0
  | .abort text => ledger.charge (Batch.abort text) 0
  | .reset => ⟨Batch.reset ledger.state, 0⟩

def build (config : Config) (memory : MemoryStats) (calls : List Call) : Ledger :=
  calls.foldl perform (allocate config memory)

theorem charge_total {ledger : Ledger} (exact' : ledger.batch.total = ledger.counted)
    {operation : Batch.Operation Unit} {commands : Nat}
    (counts : Batch.Counts commands operation) :
    (ledger.charge operation commands).batch.total =
      (ledger.charge operation commands).counted := by
  have taken := counts ledger.state
  unfold batch at exact' ⊢
  unfold charge
  cases ran : operation ledger.state with
  | ok value after =>
      rw [ran] at taken
      dsimp only at taken ⊢
      rw [taken, exact']
  | error failure after =>
      rw [ran] at taken
      dsimp only at taken ⊢
      rw [taken, exact']

theorem perform_total {ledger : Ledger} (exact' : ledger.batch.total = ledger.counted)
    (call : Call) : (ledger.perform call).batch.total = (ledger.perform call).counted := by
  cases call with
  | write bytes commands => exact charge_total exact' (Batch.counts_write bytes commands)
  | command arguments => exact charge_total exact' (Batch.counts_writeCommand arguments)
  | decimal value => exact charge_total exact' (Batch.counts_write _ 0)
  | abort text => exact charge_total exact' (Batch.counts_abort text)
  | reset => rfl

/-- Every command that was counted is answered or pending. -/
theorem build_total (config : Config) (memory : MemoryStats) (calls : List Call) :
    (build config memory calls).batch.total = (build config memory calls).counted := by
  have extended : ∀ ledger : Ledger, ledger.batch.total = ledger.counted →
      (calls.foldl perform ledger).batch.total = (calls.foldl perform ledger).counted := by
    induction calls with
    | nil =>
        intro ledger exact'
        exact exact'
    | cons call calls ih =>
        intro ledger exact'
        exact ih (ledger.perform call) (perform_total exact' call)
  exact extended (allocate config memory) rfl

end Ledger

end Fanout
