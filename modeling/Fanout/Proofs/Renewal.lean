import Fanout.Proofs.Accounting
import Fanout.Proofs.Blindness

/-!
A batch that was emptied is a new batch. Whatever was done with a batch, its buffers know the size
that they began with, and emptying it leaves nothing of its past behind; so nobody can tell it from
a batch that was just made, not even on another engine.
-/

set_option autoImplicit false

namespace Fanout

namespace Buffer

variable {size ceiling amount : Nat} {buffer : Buffer} {bytes : ByteArray}

structure Sized (size ceiling : Nat) (buffer : Buffer) : Prop where
  initial : buffer.initialCapacity = size
  ceiling : buffer.ceiling = max ceiling size
  least : size ≤ buffer.capacity

theorem sized_new (size ceiling : Nat) : (new size ceiling).Sized size ceiling :=
  ⟨rfl, rfl, Nat.le_of_eq (size_solid size poisonByte).symm⟩

theorem Sized.ensured {before after : Metered Buffer} (sized : before.item.Sized size ceiling)
    (ensured : ensureRemaining amount before = .ok () after) : after.item.Sized size ceiling := by
  have grown := (ensureRemaining_grows ensured).le
  unfold ensureRemaining at ensured
  dsimp only at ensured
  repeat' split at ensured
  all_goals cases ensured
  · exact sized
  · exact ⟨sized.initial, sized.ceiling, Nat.le_trans sized.least grown⟩

theorem Sized.store (sized : buffer.Sized size ceiling) (fits : buffer.Fits bytes) :
    (buffer.store bytes).Sized size ceiling := by
  refine ⟨sized.initial, sized.ceiling, ?_⟩
  rw [fits.capacity]
  exact sized.least

/-- Cleared and overwritten, the buffer is as it was when it was made. -/
theorem Sized.renewed (sized : buffer.Sized size ceiling) (memory : MemoryStats) :
    (clear ⟨buffer, memory⟩).item.fill poisonByte = new size ceiling := by
  obtain ⟨initial, limited, least⟩ := sized
  unfold clear
  dsimp only
  split
  · unfold fill capacity new
    dsimp only
    rw [size_solid, initial, limited]
  · rename_i small
    have same : buffer.capacity = size := by omega
    unfold fill new
    dsimp only
    rw [same, initial, limited]
    exact congrArg (Buffer.mk · size 0 size (max ceiling size)) (congrArg (solid · poisonByte) same)

structure Blank (size ceiling : Nat) (buffer : Buffer) : Prop where
  capacity : buffer.capacity = size
  initial : buffer.initialCapacity = size
  position : buffer.position = 0
  limit : buffer.limit = buffer.capacity
  ceiling : buffer.ceiling = max ceiling size
  poisoned : ∀ byte ∈ buffer.data.data, byte = poisonByte

theorem blank_new (size ceiling : Nat) : (new size ceiling).Blank size ceiling :=
  ⟨size_solid _ _, rfl, rfl, (size_solid _ _).symm, rfl, fun _ inside =>
    Array.eq_of_mem_replicate inside⟩

end Buffer

namespace Batch

variable {admits : Buffer → Reply → Prop} {bytes : ByteArray} {config : Config} {batch : Batch}
  {before after : Metered Batch}

structure Sized (config : Config) (batch : Batch) : Prop where
  writeBuffer : batch.writeBuffer.Sized config.writeBufferSize config.maxBufferSize
  readBuffer : batch.readBuffer.Sized config.readBufferSize config.maxBufferSize

theorem sized_new (config : Config) : (new config).Sized config :=
  ⟨Buffer.sized_new _ _, Buffer.sized_new _ _⟩

theorem Change.sized (change : Change admits before bytes after)
    (sized : before.item.Sized config) : after.item.Sized config := by
  obtain ⟨write, read⟩ := sized
  cases change with
  | sendRoom ensured => exact ⟨write.ensured ensured, read⟩
  | written bytes fits => exact ⟨write.store fits, read⟩
  | flipped =>
      unfold startSending
      split
      · exact ⟨write, read⟩
      · exact ⟨⟨write.initial, write.ceiling, write.least⟩, read⟩
  | sent position within => exact ⟨⟨write.initial, write.ceiling, write.least⟩, read⟩
  | receiveRoom ensured => exact ⟨write, read.ensured ensured⟩
  | received bytes fits => exact ⟨write, read.store fits⟩
  | _ => exact ⟨write, read⟩

/-- Emptied, a batch is as it was when it was made. -/
theorem reset_eq_new (sized : batch.Sized config) (memory : MemoryStats) :
    (reset ⟨batch, memory⟩).item = new config := by
  unfold reset new
  dsimp only
  rw [sized.writeBuffer.renewed, sized.readBuffer.renewed]

theorem standing_sized (config : Config) :
    Standing config (fun batch => batch = new config) fun batch => batch.Sized config := by
  constructor
  · exact sized_new config
  · rintro batch rfl
    exact sized_new config
  · exact fun sized change => change.sized sized
  · exact fun sized memory => reset_eq_new sized memory

structure Blank (config : Config) (batch : Batch) : Prop where
  writeBuffer : batch.writeBuffer.Blank config.writeBufferSize config.maxBufferSize
  readBuffer : batch.readBuffer.Blank config.readBufferSize config.maxBufferSize
  pending : batch.pending = 0
  replies : batch.replies = #[]
  cursor : batch.cursor = {}
  abortText : batch.abortText = none
  sent : batch.sent = false

theorem blank_new (config : Config) : (new config).Blank config :=
  ⟨Buffer.blank_new _ _, Buffer.blank_new _ _, rfl, rfl, rfl, rfl, rfl⟩

/-! ### What a batch answers -/

inductive Call (Net Sock : Type) where
  | use (chosen : Use)
  | reset
  | round (front back : List (Pair Sock)) (connection : Connection Sock) (network : Net)
      (timeout : Duration)

inductive Response (Net Sock : Type) where
  | answered (answer : Except Failure Answer)
  | emptied
  | ended (outcome : Outcome) (network : Net) (pairs : List (Pair Sock))

variable {Net Sock : Type}

/-- What a batch that was one of the pairs gets from a round. -/
def taken (batch : Batch) (ordinal : Nat) (done : Outcome × Round Net Sock) :
    Response Net Sock × Batch × Engine :=
  (.ended done.1 done.2.network done.2.pairs,
    (done.2.pairs[ordinal]?.map Pair.batch).getD batch, done.2.engine)

def Call.perform (transport : Transport Net Sock) (state : Batch × Engine) :
    Call Net Sock → Response Net Sock × Batch × Engine
  | .use chosen =>
      let done := state.2.onBatch state.1 chosen.operation
      (.answered done.1, done.2)
  | .reset => (.emptied, state.2.resetBatch state.1)
  | .round front back connection network timeout =>
      let round := Round.enlist state.2 network (front ++ ⟨connection, state.1⟩ :: back)
      state.1.taken front.length (round.execute transport timeout)

/-- What comes back from calls, one after the other. -/
def responses (transport : Transport Net Sock) :
    List (Call Net Sock) → Batch × Engine → List (Response Net Sock)
  | [], _ => []
  | call :: calls, state =>
      let done := call.perform transport state
      done.1 :: responses transport calls done.2

theorem reset_item (batch : Batch) (memory other : MemoryStats) :
    (reset ⟨batch, other⟩).item = (reset ⟨batch, memory⟩).item := by
  have cleared : ∀ (buffer : Buffer) (memory other : MemoryStats),
      (Buffer.clear ⟨buffer, other⟩).item = (Buffer.clear ⟨buffer, memory⟩).item := by
    intro buffer memory other
    unfold Buffer.clear
    dsimp only
    split <;> rfl
  unfold reset
  dsimp only
  rw [cleared batch.writeBuffer memory other, cleared batch.readBuffer (Buffer.clear _).memory]

theorem round_config (transport : Transport Net Sock) (engine : Engine) (network : Net)
    (pairs : List (Pair Sock)) (timeout : Duration) :
    ((Round.enlist engine network pairs).execute transport timeout).2.engine.config =
      engine.config := by
  have evolves := (Round.midway_evolves transport (Round.enlist engine network pairs) timeout
    0).trans (Round.execute_evolves transport _ timeout 0)
  exact evolves.config.trans (Session.enlist_alike engine network pairs).config

/-- A call is answered alike on engines with the same settings, and leaves the same batch. -/
theorem perform_alike (transport : Transport Net Sock) (call : Call Net Sock) (batch : Batch)
    {engine other : Engine} (same : other.config = engine.config) :
    (call.perform transport (batch, other)).1 = (call.perform transport (batch, engine)).1 ∧
      (call.perform transport (batch, other)).2.1 = (call.perform transport (batch, engine)).2.1 ∧
      (call.perform transport (batch, other)).2.2.config =
        (call.perform transport (batch, engine)).2.2.config := by
  cases call with
  | use chosen =>
      obtain ⟨answer, left, ran⟩ := chosen.blind batch
      obtain ⟨_, one⟩ := ran engine.memory
      obtain ⟨_, two⟩ := ran other.memory
      unfold Call.perform Engine.onBatch
      dsimp only
      rw [one, two]
      cases answer <;> exact ⟨rfl, rfl, same⟩
  | reset => exact ⟨rfl, reset_item batch engine.memory other.memory, same⟩
  | round front back connection network timeout =>
      obtain ⟨middle, listed⟩ :=
        Round.blind_enlist same network (front ++ ⟨connection, batch⟩ :: back)
      obtain ⟨after, done⟩ := Round.blind_execute transport
        (Round.enlist engine network (front ++ ⟨connection, batch⟩ :: back)) timeout middle
      have settings := fun engine : Engine => round_config transport engine network
        (front ++ ⟨connection, batch⟩ :: back) timeout
      have mine := settings engine
      have others := settings other
      rw [← listed] at done
      cases ran : (Round.enlist engine network (front ++ ⟨connection, batch⟩ :: back)).execute
          transport timeout with
      | mk outcome last =>
          rw [ran] at done mine
          rw [done] at others
          unfold Call.perform
          dsimp only
          rw [ran, done]
          exact ⟨rfl, rfl, others.trans (same.trans mine.symm)⟩

theorem responses_alike (transport : Transport Net Sock) (calls : List (Call Net Sock))
    (batch : Batch) {engine other : Engine} (same : other.config = engine.config) :
    responses transport calls (batch, other) = responses transport calls (batch, engine) := by
  induction calls generalizing batch engine other with
  | nil => rfl
  | cons call calls ih =>
      obtain ⟨answer, left, settings⟩ := perform_alike transport call batch same
      have rest := ih (call.perform transport (batch, engine)).2.1 settings
      rw [← left] at rest
      unfold responses
      dsimp only
      rw [answer, rest, left]

end Batch

/-! ### Sessions -/

namespace Session

variable {Net Sock : Type} {transport : Transport Net Sock} {config : Config}
  {session after : Session}

/-- The pool holds new batches only, and those of the callers can be made new again. -/
structure Stocked (config : Config) (session : Session) : Prop where
  settings : session.engine.config = config
  pool : ∀ batch ∈ session.engine.pool, batch = Batch.new config
  held : ∀ batch ∈ session.held, batch.Sized config

theorem Effect.stocked (effect : Effect session after) (stocked : Stocked config session) :
    Stocked config after := by
  obtain ⟨settings, pool, held⟩ := effect.every (Batch.standing_sized config)
    ⟨stocked.settings, stocked.pool, stocked.held⟩
  exact ⟨settings, pool, held⟩

/-- Whatever was done with an engine and its batches before, a batch that is emptied is the new
batch that the engine would make now, and so is the batch that the engine gives out, be it a used
one: it is blank. It answers every sequence of calls, rounds among them, like a batch that is new on
any engine with the same settings. -/
theorem reset_renews (transport : Transport Net Sock) (config : Config)
    (acts : List (Act Net Sock)) :
    let engine := (run transport config acts).engine
    engine.newBatch.1.Blank config ∧
      (∀ batch ∈ (run transport config acts).held,
        (engine.resetBatch batch).1 = engine.newBatch.1) ∧
      engine.batch.1 = engine.newBatch.1 ∧
      ∀ other : Engine, other.config = config → ∀ calls : List (Batch.Call Net Sock),
        (∀ batch ∈ (run transport config acts).held,
          Batch.responses transport calls (engine.resetBatch batch) =
            Batch.responses transport calls other.newBatch) ∧
        Batch.responses transport calls engine.batch =
          Batch.responses transport calls other.newBatch := by
  have stocked : Stocked config (run transport config acts) :=
    @Moment.kept _ _ transport _ (Stocked config) ⟨rfl, nofun, nofun⟩
      (fun stocked effect => effect.stocked stocked) (.between acts)
  intro engine
  have made : engine.newBatch.1 = Batch.new config :=
    congrArg Batch.new stocked.settings
  have renewed : ∀ batch ∈ (run transport config acts).held,
      (engine.resetBatch batch).1 = Batch.new config :=
    fun batch among => Batch.reset_eq_new (stocked.held batch among) _
  have given : engine.batch.1 = Batch.new config ∧ engine.batch.2.config = config := by
    unfold Engine.batch
    split
    · rename_i batch pool here
      exact ⟨stocked.pool batch (by rw [here]; exact List.mem_cons_self), stocked.settings⟩
    · exact ⟨made, stocked.settings⟩
  refine ⟨by rw [made]; exact Batch.blank_new config, ?_, given.1.trans made.symm, ?_⟩
  · intro batch among
    rw [renewed batch among, made]
  · intro other same calls
    have fresh : other.newBatch.1 = Batch.new config := congrArg Batch.new same
    have alike : ∀ given : Batch × Engine, given.1 = Batch.new config → given.2.config = config →
        Batch.responses transport calls given =
          Batch.responses transport calls other.newBatch := by
      rintro ⟨batch, holder⟩ new settings
      have swapped := Batch.responses_alike transport calls batch
        (settings.trans (show other.newBatch.2.config = config from same).symm)
      dsimp only at new
      rw [swapped, new, ← fresh]
    refine ⟨fun batch among => alike _ (renewed batch among) stocked.settings, ?_⟩
    exact alike _ given.1 given.2

/-- The batch that grew and failed, among those that are held after the errands. -/
theorem reset_renews_errands :
    ∃ batch ∈ (run Round.stranded thrifty errands).held,
      batch.replies.size = 1 ∧ batch.footprint = 9 ∧
      ((run Round.stranded thrifty errands).engine.resetBatch batch).1 =
        (run Round.stranded thrifty errands).engine.newBatch.1 ∧
      ∀ calls : List (Batch.Call Unit Unit),
        Batch.responses Round.stranded calls
            ((run Round.stranded thrifty errands).engine.resetBatch batch) =
          Batch.responses Round.stranded calls (Engine.new thrifty).newBatch := by
  have renews := reset_renews Round.stranded thrifty errands
  have among := List.get_mem (run Round.stranded thrifty errands).held ⟨1, by decide +kernel⟩
  refine ⟨_, among, by decide +kernel, by decide +kernel, renews.2.1 _ among, ?_⟩
  intro calls
  exact (renews.2.2.2 (Engine.new thrifty) rfl calls).1 _ among

end Session

end Fanout
