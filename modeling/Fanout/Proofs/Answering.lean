import Fanout.Proofs.Ledger
import Fanout.Proofs.Serving
import Fanout.Proofs.Settling

/-!
Every command is answered. The replies and the pending commands of a batch add up to the commands
it counted, and a round ends with nothing pending, but for one case: a batch that was aborted
before the round keeps its pending commands when its connection gives up.
-/

set_option autoImplicit false

namespace Fanout

variable {Net Sock : Type} {transport : Transport Net Sock}

structure Accounts (entry : Batch) (pair : Pair Sock) : Prop where
  total : pair.batch.total = entry.total
  early : entry.isAborted = true →
    pair.batch.isAborted = true ∧
      (pair.connection.link.isAborted = true → 0 < pair.batch.pending)
  plain : entry.isAborted = false →
    pair.batch.isAborted = pair.connection.link.isAborted ∧
      (pair.connection.link.isAborted = true → pair.batch.pending = 0)

namespace Accounts

variable {entry : Batch} {turn before after : Turn Net Sock}

theorem alive {pair : Pair Sock} {turn : Turn Net Sock} (accounts : Accounts entry turn.pair)
    (was : turn.connection.link.isAborted = false)
    (total : pair.batch.total = turn.batch.total)
    (text : pair.batch.abortText = turn.batch.abortText)
    (alive : pair.connection.link.isAborted = false) : Accounts entry pair := by
  have same : pair.batch.isAborted = turn.batch.isAborted := congrArg Option.isSome text
  refine ⟨total.trans accounts.total, ?_, ?_⟩
  · intro early
    rw [same, alive]
    exact ⟨(accounts.early early).1, nofun⟩
  · intro plain
    rw [same, alive]
    exact ⟨(accounts.plain plain).1.trans was, nofun⟩

theorem abort (accounts : Accounts entry turn.pair)
    (alive : turn.connection.link.isAborted = false) (busy : 0 < turn.batch.pending)
    (cause : AbortCause) : Accounts entry (turn.abort transport cause).pair := by
  have batch := @Turn.abort_batch _ _ transport _ alive cause
  have aborted := Turn.abort_aborted transport turn cause
  have early := accounts.early
  have plain := accounts.plain
  have total := accounts.total
  dsimp only [Turn.pair] at early plain total
  rw [alive] at plain
  cases was : turn.batch.isAborted with
  | true =>
      rw [was, if_pos rfl] at batch
      refine ⟨?_, ?_, ?_⟩
      · dsimp only [Turn.pair]
        rw [batch]
        exact total
      · intro _
        dsimp only [Turn.pair]
        rw [batch]
        exact ⟨was, fun _ => busy⟩
      · intro fresh
        rw [(plain fresh).1] at was
        cases was
  | false =>
      rw [was, if_neg Bool.false_ne_true] at batch
      refine ⟨?_, ?_, ?_⟩
      · dsimp only [Turn.pair]
        rw [batch, ← total]
        simp only [Batch.total, Batch.failPending, Array.size_append, Array.size_replicate,
          Nat.add_zero]
      · intro stale
        rw [(early stale).1] at was
        cases was
      · intro _
        dsimp only [Turn.pair]
        rw [batch, aborted]
        exact ⟨rfl, fun _ => rfl⟩

theorem received {socket : Sock} {ended : IntakeEnd} {intake : Intake Sock}
    (accounts : Accounts entry turn.pair) (connected : turn.connection.link = .connected socket)
    (runs : (turn.intake socket).run transport = (ended, intake)) :
    Accounts entry (turn.withIntake intake).pair := by
  have keeps := Intake.run_keeps transport (turn.intake socket)
  rw [runs] at keeps
  exact accounts.alive (by rw [connected]; rfl) keeps.total keeps.abortText rfl

theorem move {bytes : ByteArray} (accounts : Accounts entry before.pair)
    (busy : 0 < before.batch.pending) (move : Turn.Move transport before bytes after) :
    Accounts entry after.pair := by
  have was := move.alive
  cases move with
  | @unreachable dialing network cause closed dials =>
      exact @abort _ _ transport _ { before with network := network } accounts was busy cause
  | opened closed dials => exact accounts.alive was rfl rfl rfl
  | @shaken socket later handshake connecting shakes =>
      exact accounts.alive was rfl rfl ((Link.isAborted_withSocket _ later).trans was)
  | established connecting shakes => exact accounts.alive was rfl rfl rfl
  | @asked socket later event refusal interests known asks =>
      exact accounts.alive was rfl rfl ((Link.isAborted_withSocket _ later).trans was)
  | @sent socket later ended buffer connected sends =>
      exact accounts.alive was rfl rfl ((Link.isAborted_withSocket _ later).trans was)
  | received connected runs fine => exact accounts.received connected runs
  | @lost socket cause intake connected runs =>
      have answered := Intake.answered_iff transport (before.intake socket)
      rw [runs] at answered
      have missing : 0 < (before.withIntake intake).batch.pending :=
        Nat.pos_of_ne_zero fun none => nomatch answered.mpr none
      exact (accounts.received connected runs).abort rfl missing cause
  | @gaveUp cause alive => exact accounts.abort alive busy cause
  | broke known asks => exact accounts

theorem entered (pair : Pair Sock) : Accounts pair.batch pair.prepared := by
  obtain ⟨_, pending, replies, text⟩ := pair.prepared_batch
  have same : pair.prepared.batch.isAborted = pair.batch.isAborted := congrArg Option.isSome text
  refine ⟨?_, ?_, ?_⟩
  · unfold Batch.total
    rw [pending, replies]
  · intro early
    rw [same, pair.prepared_alive]
    exact ⟨early, nofun⟩
  · intro plain
    rw [same, pair.prepared_alive]
    exact ⟨plain, nofun⟩

theorem served {pair after : Pair Sock} {bytes : ByteArray}
    (served : Served transport pair.prepared bytes after) : Accounts pair.batch after := by
  induction served with
  | entered => exact entered pair
  | move served busy move ih => exact ih.move busy move

end Accounts

namespace Round

/-- A round answers every command that a batch has counted, unless the batch was aborted before the
round with commands still pending and its connection gives up in the round. -/
theorem execute_answers (transport : Transport Net Sock) (engine : Engine) (network : Net)
    (pairs : List (Pair Sock)) (timeout : Duration) (ordinal : Nat) (connection : Connection Sock)
    (config : Config) (memory : MemoryStats) (calls : List Call)
    (added : (enlist engine network pairs).pairs[ordinal]? =
      some ⟨connection, (Ledger.build config memory calls).batch⟩) :
    ∃ after, ((enlist engine network pairs).execute transport timeout).2.pairs[ordinal]? =
        some after ∧
      after.batch.replies.size + after.batch.pending =
        (Ledger.build config memory calls).counted ∧
      ((after.batch.pending = 0 ∧
          after.batch.replies.size = (Ledger.build config memory calls).counted) ↔
        ¬((Ledger.build config memory calls).batch.hasPending = true ∧
          (Ledger.build config memory calls).batch.isAborted = true ∧
          after.connection.link.isAborted = true)) := by
  have counted := Ledger.build_total config memory calls
  have settles := @execute_givenUp _ _ _ transport (enlist_counted engine network pairs) timeout
    ordinal
  generalize (Ledger.build config memory calls).counted = commands at *
  generalize (Ledger.build config memory calls).batch = batch at *
  cases busy : batch.hasPending with
  | false =>
      have none : batch.pending = 0 := Nat.eq_zero_of_not_pos (of_decide_eq_false busy)
      refine ⟨_, execute_idle transport timeout added busy, counted, ?_⟩
      unfold Batch.total at counted
      dsimp only
      constructor
      · rintro _ ⟨impossible, _⟩
        cases impossible
      · intro _
        exact ⟨none, by omega⟩
  | true =>
      obtain ⟨after, there, served⟩ := execute_served transport timeout added busy
      obtain ⟨total, early, plain⟩ := Accounts.served served
      have sum : after.batch.replies.size + after.batch.pending = commands :=
        total.trans counted
      refine ⟨after, there, sum, ?_⟩
      dsimp only at early plain
      constructor
      · rintro ⟨answered, _⟩ ⟨_, aborted, gaveUp⟩
        have missing := (early aborted).2 gaveUp
        omega
      · intro other
        have answered : after.batch.pending = 0 := by
          apply Nat.eq_zero_of_not_pos
          intro missing
          have gaveUp := settles after there (decide_eq_true missing)
          cases aborted : batch.isAborted with
          | true => exact other ⟨rfl, aborted, gaveUp⟩
          | false => exact Nat.ne_of_gt missing ((plain aborted).2 gaveUp)
        exact ⟨answered, by omega⟩

def stranded : Transport Unit Unit where
  dial := fun network _ => (.unresolved, network)
  shake := fun socket => (.inProgress, socket)
  send := fun socket _ => (.fails .wouldBlock, socket)
  receive := fun socket _ => (.fails .wouldBlock, socket)
  watch := .answering none
  deregister := fun network _ => (none, network)
  hangUp := fun network _ => network
  poll := fun network _ _ => (.interrupted, 0, network)
  patience := fun _ => 0
  send_interrupted := nofun
  receive_interrupted := nofun

def abortedEarly : Ledger :=
  Ledger.build { readBufferSize := 1, writeBufferSize := 6 } {}
    [.abort "x", .write ⟨#[80, 73, 78, 71, 13, 10]⟩ 1]

def strandedRound : Round Unit Unit :=
  enlist {} () [⟨Connection.new ⟨"nowhere", 6379⟩ 255, abortedEarly.batch⟩]

theorem execute_answers_stranded :
    ∃ after, (strandedRound.execute stranded 1000).2.pairs[0]? = some after ∧
      after.batch.replies.size + after.batch.pending = abortedEarly.counted ∧
      ((after.batch.pending = 0 ∧ after.batch.replies.size = abortedEarly.counted) ↔
        ¬(abortedEarly.batch.hasPending = true ∧ abortedEarly.batch.isAborted = true ∧
          after.connection.link.isAborted = true)) :=
  execute_answers stranded {} () _ 1000 0 (Connection.new ⟨"nowhere", 6379⟩ 255) _ {} _ rfl

/-- The command of that batch is never answered. -/
theorem execute_leaves_pending :
    ∃ after, (strandedRound.execute stranded 1000).2.pairs[0]? = some after ∧
      after.batch.pending = 1 ∧ after.batch.replies.size = 0 ∧ abortedEarly.counted = 1 := by
  have idle : ((strandedRound.startAll stranded).interests.outstanding = 0 ||
      !(strandedRound.startAll stranded).anyPending) = true := by rfl
  have settled : strandedRound.steps stranded 1000 = [.finish 0] := by
    unfold steps
    rw [loopSteps, if_pos idle]
    rfl
  rw [execute_pairs, settled]
  exact ⟨_, rfl, rfl, rfl, rfl⟩

end Round

end Fanout
