import Fanout.Proofs.Session

/-!
Nothing that is done with batches looks at the counters: what an operation answers, and what it
leaves behind of the batch, is the same whatever they say. A round does not look at its engine
either, once it has taken its pairs.
-/

set_option autoImplicit false

namespace Fanout

/-! ### Operations -/

def Attempt.outcome {σ α : Type} (state : σ) : Except Failure α → EStateM.Result Failure σ α
  | .ok value => .ok value state
  | .error failure => .error failure state

/-- The operation answers the same and leaves the same behind, whatever the counters say. -/
def Attempt.Blind {σ α : Type} (operation : Attempt (Metered σ) α) : Prop :=
  ∀ item, ∃ answer left, ∀ memory, ∃ after,
    operation ⟨item, memory⟩ = outcome ⟨left, after⟩ answer

namespace Attempt

variable {σ τ α β : Type} {operation : Attempt (Metered σ) α}

theorem Blind.bind {second : α → Attempt (Metered σ) β} (one : Blind operation)
    (two : ∀ value, Blind (second value)) :
    Blind (operation >>= second : Attempt (Metered σ) β) := by
  intro item
  obtain ⟨answer, left, ran⟩ := one item
  cases answer with
  | error failure =>
      refine ⟨.error failure, left, fun memory => ?_⟩
      obtain ⟨after, failed⟩ := ran memory
      refine ⟨after, ?_⟩
      simp only [Bind.bind, EStateM.bind, failed, outcome]
  | ok value =>
      obtain ⟨answer, last, goesOn⟩ := two value left
      refine ⟨answer, last, fun memory => ?_⟩
      obtain ⟨middle, done⟩ := ran memory
      obtain ⟨after, ended⟩ := goesOn middle
      refine ⟨after, ?_⟩
      simp only [Bind.bind, EStateM.bind, done, outcome]
      exact ended

theorem Blind.map (value : α → β) (blind : Blind operation) :
    Blind (value <$> operation : Attempt (Metered σ) β) := by
  intro item
  obtain ⟨answer, left, ran⟩ := blind item
  refine ⟨answer.map value, left, fun memory => ?_⟩
  obtain ⟨after, done⟩ := ran memory
  refine ⟨after, ?_⟩
  simp only [Functor.map, EStateM.map, done]
  cases answer <;> rfl

/-- An operation of a part is blind in the whole. -/
theorem Blind.within (part : τ → σ) (replace : τ → σ → τ) (blind : Blind operation) :
    Blind (operation.within (fun whole => ⟨part whole.item, whole.memory⟩)
      fun whole changed => ⟨replace whole.item changed.item, changed.memory⟩ :
        Attempt (Metered τ) α) := by
  intro item
  obtain ⟨answer, left, ran⟩ := blind (part item)
  refine ⟨answer, replace item left, fun memory => ?_⟩
  obtain ⟨after, done⟩ := ran memory
  refine ⟨after, ?_⟩
  unfold Attempt.within
  dsimp only
  rw [done]
  cases answer <;> rfl

end Attempt

open Attempt (Blind)

theorem Buffer.blind_ensureRemaining (amount : Nat) : Blind (ensureRemaining amount) := by
  intro item
  unfold ensureRemaining
  dsimp only
  by_cases reading : item.limit ≠ item.capacity
  · simp only [if_pos reading]
    exact ⟨.error _, item, fun memory => ⟨memory, rfl⟩⟩
  · simp only [if_neg reading]
    by_cases room : amount ≤ item.remaining
    · simp only [if_pos room]
      exact ⟨.ok (), item, fun memory => ⟨memory, rfl⟩⟩
    · simp only [if_neg room]
      by_cases above : item.ceiling < item.position + amount
      · simp only [if_pos above]
        exact ⟨.error _, item, fun memory => ⟨memory, rfl⟩⟩
      · simp only [if_neg above]
        exact ⟨.ok (), _, fun memory => ⟨_, rfl⟩⟩

theorem Buffer.blind_write (bytes : ByteArray) : Blind (write bytes) := by
  apply (blind_ensureRemaining bytes.size).bind
  intro _ item
  exact ⟨.ok (), item.store bytes, fun memory => ⟨memory, rfl⟩⟩

def Buffer.refusal : Failure → Failure
  | .outOfMemory shortage => .io (.outOfMemory shortage)
  | failure => failure

theorem Buffer.blind_receive {σ : Type} (source : σ → Nat → ReceiveAnswer × σ) (peer : σ)
    (buffer : Buffer) :
    ∃ result left later, ∀ memory, ∃ after,
      receive source peer ⟨buffer, memory⟩ = (result, ⟨left, after⟩, later) := by
  obtain ⟨answer, ready, ensured⟩ := blind_ensureRemaining buffer.headroom buffer
  unfold receive
  cases answer with
  | error failure =>
      refine ⟨.error (refusal failure), ready, peer, fun memory => ?_⟩
      obtain ⟨after, refused⟩ := ensured memory
      refine ⟨after, ?_⟩
      rw [refused]
      cases failure <;> rfl
  | ok value =>
      cases asked : source peer ready.remaining with
      | mk said later =>
          cases said with
          | fails error =>
              refine ⟨.error (.io error), ready, later, fun memory => ?_⟩
              obtain ⟨after, made⟩ := ensured memory
              refine ⟨after, ?_⟩
              rw [made]
              simp only [Attempt.outcome, asked]
          | delivers bytes =>
              refine ⟨.ok (bytes.extract 0 ready.remaining).size,
                ready.store (bytes.extract 0 ready.remaining), later, fun memory => ?_⟩
              obtain ⟨after, made⟩ := ensured memory
              refine ⟨after, ?_⟩
              rw [made]
              simp only [Attempt.outcome, asked]

namespace Batch

theorem blind_onWriteBuffer {α : Type} {operation : Buffer.Operation α} (blind : Blind operation) :
    Blind (onWriteBuffer operation) :=
  blind.within writeBuffer fun batch buffer => { batch with writeBuffer := buffer }

theorem blind_onReadBuffer {α : Type} {operation : Buffer.Operation α} (blind : Blind operation) :
    Blind (onReadBuffer operation) :=
  blind.within readBuffer fun batch buffer => { batch with readBuffer := buffer }

theorem blind_requireUnsent : Blind requireUnsent := by
  intro item
  by_cases sent : item.sent = true
  · exact ⟨.error _, item, fun memory => ⟨memory, if_pos sent⟩⟩
  · exact ⟨.ok (), item, fun memory => ⟨memory, if_neg sent⟩⟩

theorem blind_count (commands : Nat) : Blind (count commands) := by
  intro item
  by_cases countable : item.pending + commands ≤ largestWord
  · exact ⟨.ok (), { item with pending := item.pending + commands, countable := countable },
      fun memory => ⟨memory, dif_pos countable⟩⟩
  · exact ⟨.error _, item, fun memory => ⟨memory, dif_neg countable⟩⟩

theorem blind_write (bytes : ByteArray) (commands : Nat) : Blind (write bytes commands) := by
  apply blind_requireUnsent.bind
  intro _
  apply (blind_onWriteBuffer (Buffer.blind_write bytes)).bind
  intro _
  exact blind_count commands

theorem blind_writeArguments (arguments : List ByteArray) : Blind (writeArguments arguments) := by
  induction arguments with
  | nil => exact fun item => ⟨.ok (), item, fun memory => ⟨memory, rfl⟩⟩
  | cons argument others ih =>
      apply (blind_write _ _).bind
      intro _
      apply (blind_write _ _).bind
      intro _
      apply (blind_write _ _).bind
      intro _
      exact ih

theorem blind_writeCommand (arguments : List ByteArray) : Blind (writeCommand arguments) := by
  unfold writeCommand
  cases arguments.isEmpty with
  | true => exact fun item => ⟨.error _, item, fun memory => ⟨memory, rfl⟩⟩
  | false =>
      apply blind_requireUnsent.bind
      intro _
      apply (blind_onWriteBuffer (Buffer.blind_ensureRemaining _)).bind
      intro _
      apply (blind_write _ _).bind
      intro _
      exact blind_writeArguments arguments

theorem blind_sendOnce (answer : SendAnswer) : Blind (sendOnce answer) := by
  intro item
  unfold sendOnce
  dsimp only
  cases (item.writeBuffer.send (fun (_ : Unit) _ => (answer, ())) ()).1 with
  | ok count => exact ⟨.ok count, _, fun memory => ⟨memory, rfl⟩⟩
  | error error => exact ⟨.error _, _, fun memory => ⟨memory, rfl⟩⟩

theorem blind_receiveOnce (answer : ReceiveAnswer) : Blind (receiveOnce answer) := by
  intro item
  obtain ⟨result, left, _, received⟩ :=
    Buffer.blind_receive (fun (_ : Unit) _ => (answer, ())) () item.readBuffer
  refine ⟨result, { item with readBuffer := left }, fun memory => ?_⟩
  obtain ⟨after, done⟩ := received memory
  refine ⟨after, ?_⟩
  unfold receiveOnce receiving
  dsimp only
  rw [done]
  cases result <;> rfl

theorem blind_pushReply (reply : Reply) : Blind (pushReply reply) := by
  intro item
  by_cases busy : item.hasPending = true
  · exact ⟨.ok (), item.answer reply, fun memory => ⟨memory, if_pos busy⟩⟩
  · exact ⟨.error _, item, fun memory => ⟨memory, if_neg busy⟩⟩

theorem blind_abort (text : String) : Blind (abort text) := by
  intro item
  by_cases aborted : item.isAborted = true
  · exact ⟨.error _, item, fun memory => ⟨memory, if_pos aborted⟩⟩
  · exact ⟨.ok (), item.failPending text, fun memory => ⟨memory, if_neg aborted⟩⟩

theorem blind_nextReply : Blind nextReply := by
  intro item
  unfold nextReply
  dsimp only
  cases item.cursor.advance item.replies with
  | none => exact ⟨.ok none, item, fun memory => ⟨memory, rfl⟩⟩
  | some step =>
      obtain ⟨visit, cursor⟩ := step
      dsimp only
      cases item.entry visit with
      | ok entry => exact ⟨.ok (some entry), _, fun memory => ⟨memory, rfl⟩⟩
      | error rule => exact ⟨.error _, _, fun memory => ⟨memory, rfl⟩⟩

theorem blind_drain : Blind drain := by
  intro item
  unfold drain
  dsimp only
  cases (item.cursor.walk item.replies).1.mapM item.entry with
  | ok entries => exact ⟨.ok entries, _, fun memory => ⟨memory, rfl⟩⟩
  | error rule => exact ⟨.error _, _, fun memory => ⟨memory, rfl⟩⟩

/-- No use of a batch looks at the counters. -/
theorem Use.blind (use : Use) : Blind use.operation := by
  cases use with
  | write bytes commands => exact (blind_write bytes commands).map _
  | command arguments => exact (blind_writeCommand arguments).map _
  | decimal value => exact (blind_write _ 0).map _
  | start => exact fun item => ⟨.ok .done, item.startSending, fun memory => ⟨memory, rfl⟩⟩
  | send answer => exact (blind_sendOnce answer).map _
  | receive answer => exact (blind_receiveOnce answer).map _
  | store bytes => exact (blind_onReadBuffer (Buffer.blind_write bytes)).map _
  | push reply => exact (blind_pushReply reply).map _
  | abort text => exact (blind_abort text).map _
  | next => exact blind_nextReply.map _
  | drain => exact blind_drain.map _

end Batch

variable {Net Sock : Type}

/-! ### Turns -/

namespace Intake

def withMemory (intake : Intake Sock) (memory : MemoryStats) : Intake Sock :=
  { intake with memory := memory }

theorem blind_receive (transport : Transport Net Sock) (intake : Intake Sock)
    (memory : MemoryStats) :
    ∃ after, receive transport (intake.withMemory memory) =
      ((intake.receive transport).1, (intake.receive transport).2.withMemory after) := by
  obtain ⟨result, left, later, received⟩ :=
    Buffer.blind_receive transport.receive intake.socket intake.batch.readBuffer
  obtain ⟨_, first⟩ := received intake.memory
  obtain ⟨after, second⟩ := received memory
  refine ⟨after, ?_⟩
  unfold receive withMemory
  dsimp only
  rw [first, second]

theorem blind_run (transport : Transport Net Sock) (intake : Intake Sock) (memory : MemoryStats) :
    ∃ after, (intake.withMemory memory).run transport =
      ((intake.run transport).1, (intake.run transport).2.withMemory after) := by
  have asked : ∀ {intake next : Intake Sock} {parser : Parser} {result : Except Failure Nat}
      (memory : MemoryStats), intake.batch.pending ≠ 0 →
      intake.parser.run intake.batch.readBuffer.filled = (parser, .incomplete) →
      receive transport { intake with parser := parser } = (result, next) →
      ∃ after, (intake.withMemory memory).run transport =
        (next.withMemory after).proceed transport result := by
    intro intake next parser result memory busy ran received
    obtain ⟨after, same⟩ := blind_receive transport { intake with parser := parser } memory
    rw [received] at same
    exact ⟨after, @run_incomplete _ _ _ (intake.withMemory memory) _ _ _ busy ran same⟩
  fun_induction run transport intake generalizing memory with
  | case1 intake done => exact ⟨memory, @run_done _ _ _ (intake.withMemory memory) done⟩
  | case2 intake busy parser reply ran ih =>
      obtain ⟨after, same⟩ := ih memory
      exact ⟨after, (@run_complete _ _ _ (intake.withMemory memory) _ _ busy ran).trans same⟩
  | case3 intake busy parser error ran =>
      exact ⟨memory, @run_malformed _ _ _ (intake.withMemory memory) _ _ busy ran⟩
  | case4 intake busy parser ran next received => exact asked memory busy ran received
  | case5 intake busy parser ran count next received ih =>
      obtain ⟨middle, goesOn⟩ := asked memory busy ran received
      obtain ⟨after, same⟩ := ih middle
      exact ⟨after, goesOn.trans same⟩
  | case6 intake busy parser ran next received => exact asked memory busy ran received
  | case7 intake busy parser ran next received ih =>
      obtain ⟨middle, goesOn⟩ := asked memory busy ran received
      obtain ⟨after, same⟩ := ih middle
      exact ⟨after, goesOn.trans same⟩
  | case8 intake busy parser ran failure next blocked interrupted received =>
      obtain ⟨after, ended⟩ := asked memory busy ran received
      exact ⟨after, ended.trans (proceed_failure blocked interrupted)⟩

end Intake

namespace Turn

def withMemory (turn : Turn Net Sock) (memory : MemoryStats) : Turn Net Sock :=
  { turn with memory := memory }

def Blind (act : Turn Net Sock → Turn Net Sock) : Prop :=
  ∀ turn memory, ∃ after, act (turn.withMemory memory) = (act turn).withMemory after

variable (transport : Transport Net Sock) (turn : Turn Net Sock) (memory : MemoryStats)

@[simp]
theorem network_withMemory : (turn.withMemory memory).network = turn.network := rfl

@[simp]
theorem interests_withMemory : (turn.withMemory memory).interests = turn.interests := rfl

@[simp]
theorem memory_withMemory : (turn.withMemory memory).memory = memory := rfl

@[simp]
theorem ordinal_withMemory : (turn.withMemory memory).ordinal = turn.ordinal := rfl

@[simp]
theorem connection_withMemory : (turn.withMemory memory).connection = turn.connection := rfl

@[simp]
theorem batch_withMemory : (turn.withMemory memory).batch = turn.batch := rfl

theorem dropSocket_withMemory :
    (turn.withMemory memory).dropSocket transport =
      (turn.dropSocket transport).withMemory memory := by
  unfold dropSocket
  dsimp
  cases turn.connection.link.socket? <;> rfl

theorem abort_withMemory (cause : AbortCause) :
    (turn.withMemory memory).abort transport cause =
      (turn.abort transport cause).withMemory memory := by
  unfold abort
  by_cases gone : turn.connection.link.isAborted = true
  · refine (if_pos gone).trans ?_
    rw [if_pos gone]
  · refine (if_neg gone).trans ?_
    rw [if_neg gone]
    exact congrArg (withLink · .aborted)
      (dropSocket_withMemory transport { turn with batch := _ } memory)

theorem notify_withMemory (event : Readiness) :
    (turn.withMemory memory).notify transport event =
      (turn.notify transport event).withMemory memory := by
  unfold notify
  dsimp
  cases turn.connection.link.socket? with
  | none => rfl
  | some socket =>
      dsimp only
      cases turn.interests.notify turn.ordinal event transport.watch socket with
      | error rule => rfl
      | ok answer =>
          obtain ⟨refusal, interests, later⟩ := answer
          cases refusal with
          | none => rfl
          | some error =>
              rw [← abort_withMemory]
              rfl

theorem sendData_withMemory :
    (turn.withMemory memory).sendData transport = (turn.sendData transport).withMemory memory := by
  unfold sendData
  dsimp
  cases turn.connection.link with
  | connected socket =>
      dsimp only
      cases (sendPending transport turn.batch.writeBuffer socket).1 with
      | drained => rfl
      | blocked =>
          rw [← notify_withMemory]
          rfl
      | failed error =>
          rw [← abort_withMemory]
          rfl
  | _ => rfl

theorem connect_withMemory :
    (turn.withMemory memory).connect transport = (turn.connect transport).withMemory memory := by
  unfold connect
  dsimp
  cases (transport.dial turn.network turn.connection.endpoint).1 with
  | unresolved =>
      rw [← abort_withMemory]
      rfl
  | refused error =>
      rw [← abort_withMemory]
      rfl
  | opened socket =>
      rw [← notify_withMemory]
      rfl

theorem finishConnect_withMemory :
    (turn.withMemory memory).finishConnect transport =
      (turn.finishConnect transport).withMemory memory := by
  unfold finishConnect
  dsimp
  cases turn.connection.link with
  | connecting socket =>
      dsimp only
      cases shaken : transport.shake socket with
      | mk handshake later =>
          cases handshake with
          | inProgress =>
              rw [← notify_withMemory]
              rfl
          | failed error =>
              rw [← abort_withMemory]
              rfl
          | established =>
              rw [← notify_withMemory]
              rfl
  | _ => rfl

theorem writeData_withMemory :
    (turn.withMemory memory).writeData transport =
      (turn.writeData transport).withMemory memory := by
  unfold writeData
  rw [connection_withMemory, connect_withMemory, finishConnect_withMemory, sendData_withMemory,
    sendData_withMemory]
  cases turn.connection.link <;> rfl

/-- Only receiving moves the counters in a turn, and it does not look at them either. -/
theorem blind_readData : Blind fun turn : Turn Net Sock => turn.readData transport := by
  intro turn memory
  unfold readData
  dsimp
  cases turn.connection.link with
  | connected socket =>
      obtain ⟨after, same⟩ := Intake.blind_run transport (turn.intake socket) memory
      change (Turn.intake (turn.withMemory memory) socket).run transport = _ at same
      refine ⟨after, ?_⟩
      dsimp only
      rw [same]
      dsimp only
      cases ((turn.intake socket).run transport).1 with
      | answered => rfl
      | blocked =>
          rw [← notify_withMemory]
          rfl
      | failed cause =>
          rw [← abort_withMemory]
          rfl
  | _ => exact ⟨memory, rfl⟩

theorem blind_start : Blind fun turn : Turn Net Sock => turn.start transport := by
  intro turn memory
  refine ⟨memory, ?_⟩
  have begun : (turn.withMemory memory).prepare.writeData transport =
      (turn.prepare.writeData transport).withMemory memory :=
    writeData_withMemory transport turn.prepare memory
  unfold start
  dsimp only
  rw [begun]
  rw [connection_withMemory, notify_withMemory]
  cases (turn.prepare.writeData transport).connection.link <;> rfl

theorem blind_handle (event : Readiness) :
    Blind fun turn : Turn Net Sock => turn.handle transport event := by
  intro turn memory
  unfold handle
  dsimp only
  rw [connection_withMemory, abort_withMemory, abort_withMemory, writeData_withMemory]
  split
  · exact ⟨memory, rfl⟩
  · split
    · exact ⟨memory, rfl⟩
    · split
      · exact ⟨memory, rfl⟩
      · split
        · split
          · exact blind_readData transport _ memory
          · exact blind_readData transport _ memory
        · split <;> exact ⟨memory, rfl⟩

theorem blind_leave : Blind fun turn : Turn Net Sock => turn.leave transport := by
  intro turn memory
  refine ⟨memory, ?_⟩
  unfold leave finish
  dsimp
  cases turn.connection.link.socket? <;> rfl

end Turn

/-! ### Rounds -/

namespace Round

variable {act : Round Net Sock → Round Net Sock}

def withEngine (round : Round Net Sock) (engine : Engine) : Round Net Sock :=
  { round with engine := engine }

def Blind (act : Round Net Sock → Round Net Sock) : Prop :=
  ∀ round engine, ∃ after, act (round.withEngine engine) = (act round).withEngine after

theorem Blind.comp {second : Round Net Sock → Round Net Sock} (one : Blind act)
    (two : Blind second) : Blind fun round => second (act round) := by
  intro round engine
  obtain ⟨middle, first⟩ := one round engine
  obtain ⟨after, same⟩ := two (act round) middle
  refine ⟨after, ?_⟩
  dsimp only
  rw [first, same]

theorem blind_foldl {α : Type} {acts : Round Net Sock → α → Round Net Sock}
    (blind : ∀ item, Blind fun round => acts round item) (items : List α) :
    Blind fun round : Round Net Sock => items.foldl acts round := by
  induction items with
  | nil => exact fun round engine => ⟨engine, rfl⟩
  | cons item items ih => exact (blind item).comp ih

theorem blind_turn {act : Turn Net Sock → Turn Net Sock} (blind : Turn.Blind act)
    (ordinal : Nat) : Blind fun round : Round Net Sock => round.turn ordinal act := by
  intro round engine
  unfold turn withEngine
  dsimp only
  cases round.pairs[ordinal]? with
  | none => exact ⟨engine, rfl⟩
  | some pair =>
      obtain ⟨memory, same⟩ := blind (round.seat ordinal pair) engine.memory
      unfold seat Turn.withMemory at same
      refine ⟨{ engine with memory := memory }, ?_⟩
      dsimp only at same ⊢
      rw [same]

theorem blind_turnIfPending {act : Turn Net Sock → Turn Net Sock} (blind : Turn.Blind act)
    (ordinal : Nat) : Blind fun round : Round Net Sock => round.turnIfPending ordinal act := by
  intro round engine
  have busy : (round.withEngine engine).isPending ordinal = round.isPending ordinal := rfl
  unfold turnIfPending
  dsimp only
  rw [busy]
  cases round.isPending ordinal with
  | false => exact ⟨engine, rfl⟩
  | true => exact blind_turn blind ordinal round engine

theorem blind_eachPair {acts : Round Net Sock → Nat → Round Net Sock}
    (blind : ∀ ordinal, Blind fun round => acts round ordinal) :
    Blind fun round : Round Net Sock => round.eachPair acts := by
  intro round engine
  exact blind_foldl blind (List.range round.pairs.length) round engine

theorem blind_startAll (transport : Transport Net Sock) :
    Blind fun round : Round Net Sock => round.startAll transport :=
  blind_eachPair fun ordinal => blind_turnIfPending (Turn.blind_start transport) ordinal

theorem blind_finishAll (transport : Transport Net Sock) :
    Blind fun round : Round Net Sock => round.finishAll transport :=
  blind_eachPair fun ordinal => blind_turn (Turn.blind_leave transport) ordinal

theorem blind_deliver (transport : Transport Net Sock) (event : Nat × Readiness) :
    Blind fun round : Round Net Sock => round.deliver transport event := by
  intro round engine
  have dropped : (round.withEngine engine).dropHit event =
      (round.dropHit event).withEngine engine := rfl
  have hit : (round.withEngine engine).hit event = round.hit event := rfl
  dsimp only
  rw [deliver_eq, deliver_eq, dropped, hit]
  split
  · exact ⟨engine, rfl⟩
  · exact blind_turnIfPending (Turn.blind_handle transport _) _ _ engine

theorem blind_dispatchAll (transport : Transport Net Sock) (event : Readiness) :
    Blind fun round : Round Net Sock => round.dispatchAll transport event := by
  refine blind_eachPair fun ordinal => ?_
  have dropped : Blind fun round : Round Net Sock =>
      { round with interests := (round.interests.takeAll ordinal).2 } :=
    fun round engine => ⟨engine, rfl⟩
  exact dropped.comp (blind_turnIfPending (Turn.blind_handle transport event) ordinal)

theorem blind_loop (transport : Transport Net Sock) (round : Round Net Sock) (remaining : Nat)
    (engine : Engine) :
    ∃ after, (round.withEngine engine).loop transport remaining =
      ((round.loop transport remaining).1,
        (round.loop transport remaining).2.withEngine after) := by
  fun_induction loop transport round remaining generalizing engine with
  | case1 round remaining settled =>
      refine ⟨engine, ?_⟩
      rw [loop]
      exact if_pos settled
  | case2 round going =>
      obtain ⟨after, same⟩ := blind_dispatchAll transport .timedOut round engine
      refine ⟨after, ?_⟩
      rw [loop]
      refine (if_neg going).trans ?_
      rw [dif_pos rfl]
      exact congrArg (Prod.mk _) same
  | case3 round remaining going more error passed network polled failed =>
      obtain ⟨after, same⟩ := blind_dispatchAll transport .failing
        { round with network := network } engine
      refine ⟨after, ?_⟩
      have polled' : transport.poll (round.withEngine engine).network
          (round.withEngine engine).watched remaining = _ := polled
      rw [loop]
      refine (if_neg going).trans ?_
      rw [dif_neg more, polled']
      exact congrArg (Prod.mk _) same
  | case4 round remaining going more passed network polled ih =>
      obtain ⟨after, same⟩ := ih engine
      refine ⟨after, ?_⟩
      have polled' : transport.poll (round.withEngine engine).network
          (round.withEngine engine).watched remaining = _ := polled
      rw [loop]
      refine (if_neg going).trans ?_
      rw [dif_neg more, polled']
      exact same
  | case5 round remaining going more events passed network polled ih =>
      obtain ⟨middle, delivered⟩ := blind_foldl (blind_deliver transport) events
        { round with network := network } engine
      obtain ⟨after, same⟩ := ih middle
      refine ⟨after, ?_⟩
      have polled' : transport.poll (round.withEngine engine).network
          (round.withEngine engine).watched remaining = _ := polled
      rw [loop]
      refine (if_neg going).trans ?_
      rw [dif_neg more, polled']
      exact (congrArg (loop transport · _) delivered).trans same

theorem blind_record (outcome : Outcome) :
    Blind fun round : Round Net Sock => round.record outcome := by
  intro round engine
  cases outcome with
  | completed => exact ⟨engine, rfl⟩
  | timedOut => exact ⟨_, rfl⟩
  | failed text => exact ⟨_, rfl⟩

/-- What becomes of a round does not depend on its engine. -/
theorem blind_execute (transport : Transport Net Sock) (round : Round Net Sock) (timeout : Duration)
    (engine : Engine) :
    ∃ after, (round.withEngine engine).execute transport timeout =
      ((round.execute transport timeout).1,
        (round.execute transport timeout).2.withEngine after) := by
  obtain ⟨first, started⟩ := blind_startAll transport round engine
  obtain ⟨second, looped⟩ := blind_loop transport (round.startAll transport)
    (round.allowed transport timeout) first
  cases ended : (round.startAll transport).loop transport (round.allowed transport timeout) with
  | mk outcome last =>
      dsimp only at started
      have other : ((round.withEngine engine).startAll transport).loop transport
          (round.allowed transport timeout) = (outcome, last.withEngine second) := by
        rw [started, looped, ended]
      obtain ⟨after, same⟩ := ((blind_finishAll transport).comp (blind_record outcome)) last second
      rw [execute_of_loop ended, execute_of_loop other]
      exact ⟨after, congrArg (Prod.mk outcome) same⟩

theorem add_withEngine (round : Round Net Sock) {other : Engine}
    (same : other.config = round.engine.config) (pair : Pair Sock) :
    ∃ after, after.config = (round.add pair).2.engine.config ∧
      ((round.withEngine other).add pair).2 = (round.add pair).2.withEngine after := by
  unfold add withEngine
  dsimp only
  rw [same]
  split
  · exact ⟨other.setLastError (RoundFull.message ⟨round.engine.config.maxPairs⟩), same, rfl⟩
  · exact ⟨other, same, rfl⟩

/-- The pairs that are taken depend on the settings of the engine only. -/
theorem blind_enlist {engine other : Engine} (same : other.config = engine.config) (network : Net)
    (pairs : List (Pair Sock)) :
    ∃ after, enlist other network pairs = (enlist engine network pairs).withEngine after := by
  have extended : ∀ (round : Round Net Sock) (other : Engine), other.config = round.engine.config →
      ∃ after, pairs.foldl (fun round pair => (round.add pair).2) (round.withEngine other) =
        (pairs.foldl (fun round pair => (round.add pair).2) round).withEngine after := by
    induction pairs with
    | nil => exact fun round other _ => ⟨other, rfl⟩
    | cons pair pairs ih =>
        intro round other same
        obtain ⟨middle, kept, added⟩ := add_withEngine round same pair
        rw [List.foldl_cons, List.foldl_cons, added]
        exact ih _ middle kept
  exact extended (Round.new engine network) other same

end Round

end Fanout
