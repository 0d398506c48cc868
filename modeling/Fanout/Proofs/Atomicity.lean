import Fanout.Proofs.Bookkeeping
import Fanout.Proofs.Encoding
import Fanout.Proofs.Renewal

/-!
A command is written as a whole or not at all. The room for it is asked for once, in advance and
exactly, so the ceiling of the send buffer alone decides; a batch that has no room for a command
keeps no trace of it.
-/

set_option autoImplicit false

namespace Fanout

/-! ### Room in a buffer -/

namespace Buffer

variable {content bytes : ByteArray} {amount : Nat} {buffer : Buffer}
  {before after : Metered Buffer}

def Limited (buffer : Buffer) : Prop := buffer.capacity ≤ buffer.ceiling

theorem limited_new (size ceiling : Nat) : (new size ceiling).Limited := by
  have whole : (new size ceiling).capacity = size := size_solid size poisonByte
  unfold Limited
  rw [whole]
  exact Nat.le_max_right ceiling size

theorem capacity_extend (buffer : Buffer) (capacity : Nat) :
    (buffer.extend capacity).capacity = max buffer.capacity capacity := by
  unfold Buffer.capacity extend
  dsimp only
  rw [ByteArray.size_append, size_solid]
  unfold Buffer.capacity
  omega

theorem Limited.ensured (limited : before.item.Limited)
    (ensured : ensureRemaining amount before = .ok () after) : after.item.Limited := by
  unfold ensureRemaining at ensured
  dsimp only at ensured
  repeat' split at ensured
  all_goals cases ensured
  · exact limited
  · unfold Limited
    rw [capacity_extend]
    exact Nat.max_le.mpr ⟨limited, Nat.min_le_right _ _⟩

theorem Limited.store (limited : buffer.Limited) (fits : buffer.Fits bytes) :
    (buffer.store bytes).Limited := by
  unfold Limited
  rw [fits.capacity]
  exact limited

theorem Limited.cleared (limited : buffer.Limited) (memory : MemoryStats) (byte : UInt8) :
    ((clear ⟨buffer, memory⟩).item.fill byte).Limited := by
  unfold Limited
  rw [capacity_fill]
  unfold clear
  dsimp only
  split
  · rename_i grown
    have start : (solid buffer.initialCapacity 0).size = buffer.initialCapacity := size_solid _ _
    change (solid buffer.initialCapacity 0).size ≤ buffer.ceiling
    rw [start]
    exact Nat.le_trans (Nat.le_of_lt grown) limited
  · exact limited

inductive Reserves (amount : Nat) (before : Metered Buffer) : Metered Buffer → Prop where
  | there (room : before.item.position + amount ≤ before.item.capacity) :
      Reserves amount before before
  | grown {capacity : Nat} (short : before.item.capacity < before.item.position + amount)
      (enough : before.item.position + amount ≤ capacity)
      (within : capacity ≤ before.item.ceiling) :
      Reserves amount before
        ⟨before.item.extend capacity, before.memory.recordGrow before.item.capacity capacity⟩

theorem ensureRemaining_reserves (holds : before.item.Holds content)
    (within : before.item.position + amount ≤ before.item.ceiling) :
    ∃ after, ensureRemaining amount before = .ok () after ∧ Reserves amount before after := by
  have inside := holds.inside
  unfold ensureRemaining
  dsimp only
  rw [if_neg (not_not_intro holds.writeMode), if_neg (Nat.not_lt_of_le within)]
  unfold remaining
  rw [holds.writeMode]
  by_cases room : before.item.position + amount ≤ before.item.capacity
  · rw [if_pos (by omega)]
    exact ⟨before, rfl, .there room⟩
  · rw [if_neg (by omega)]
    have doubled := le_doubledUntil (before.item.position + amount) (max before.item.limit 1)
      (by omega)
    refine ⟨_, rfl, .grown (Nat.lt_of_not_le room) ?_ (Nat.min_le_right _ _)⟩
    exact Nat.le_min.mpr ⟨doubled, within⟩

/-- Only beyond the ceiling is no room made. -/
theorem ensureRemaining_beyond (holds : before.item.Holds content) (limited : before.item.Limited)
    (beyond : before.item.ceiling < before.item.position + amount) :
    ensureRemaining amount before =
      .error (.outOfMemory ⟨min (before.item.position + amount) largestWord, before.item.ceiling⟩)
        before := by
  have inside := holds.inside
  have tight : ¬amount ≤ before.item.remaining := by
    unfold Limited at limited
    unfold remaining
    rw [holds.writeMode]
    omega
  unfold ensureRemaining
  dsimp only
  rw [if_neg (not_not_intro holds.writeMode), if_neg tight, if_pos beyond]

/-- The bytes stand behind those that were there before. The region grew once at most, and nothing
else is different. -/
structure Appended (bytes : ByteArray) (before after : Metered Buffer) : Prop where
  filled : after.item.filled = before.item.filled ++ bytes
  kept : after.item = { before.item with
    data := after.item.data
    position := before.item.position + bytes.size
    limit := after.item.capacity }
  growth : (after.item.capacity = before.item.capacity ∧ after.memory = before.memory) ∨
    (before.item.capacity < after.item.capacity ∧ after.item.capacity ≤ before.item.ceiling ∧
      after.memory = before.memory.recordGrow before.item.capacity after.item.capacity)

/-- What is stored in the room that was made is appended. -/
theorem Reserves.stored (reserves : Reserves amount before after)
    (holds : before.item.Holds content)
    (ensured : ensureRemaining amount before = .ok () after)
    (room : bytes.size ≤ after.item.remaining) :
    Appended bytes before { after with item := after.item.store bytes } := by
  have ready := Holds.ensured holds ensured
  have whole := capacity_store after.item bytes (ready.room room)
  constructor
  · dsimp only
    rw [filled_store ready.inside, ready.filled, holds.filled]
  · dsimp only
    rw [whole, ← ready.writeMode]
    cases reserves with
    | there room => rfl
    | grown short enough within => rfl
  · dsimp only
    rw [whole]
    cases reserves with
    | there room => exact .inl ⟨rfl, rfl⟩
    | @grown capacity short enough within =>
        have larger : (before.item.extend capacity).capacity = capacity := by
          rw [capacity_extend]
          omega
        dsimp only
        rw [larger]
        exact .inr ⟨by omega, within, rfl⟩

theorem Reserves.appended (reserves : Reserves bytes.size before after)
    (holds : before.item.Holds content)
    (ensured : ensureRemaining bytes.size before = .ok () after) :
    Appended bytes before { after with item := after.item.store bytes } :=
  reserves.stored holds ensured (ensureRemaining_room ensured)

end Buffer

/-- The form in which a command is sent. -/
theorem Command.toList_wire (arguments : List ByteArray) :
    (encode arguments).data.toList =
      Grammar.lengthLine .multibulk (Decimal.numeral arguments.length) ++
        arguments.flatMap fun argument =>
          Grammar.lengthLine .bulk (Decimal.numeral argument.size) ++ argument.data.toList ++
            Grammar.crlf := by
  have pieces : argumentBytes arguments = arguments.flatMap fun argument =>
      Grammar.lengthLine .bulk (Decimal.numeral argument.size) ++ argument.data.toList ++
        Grammar.crlf := by
    unfold argumentBytes
    simp only [toList_encodeArgument]
  rw [toList_encode, pieces]

/-! ### Batches -/

namespace Batch

variable {content bytes : ByteArray} {arguments : List ByteArray} {before after : Metered Batch}

structure Grounded (batch : Batch) : Prop where
  writable : batch.Writable
  limited : batch.writeBuffer.Limited

theorem Change.limited {admits : Buffer → Reply → Prop} (change : Change admits before bytes after)
    (limited : before.item.writeBuffer.Limited) : after.item.writeBuffer.Limited := by
  cases change with
  | sendRoom ensured => exact @Buffer.Limited.ensured _ (sending before) _ limited ensured
  | written bytes fits => exact limited.store fits
  | flipped =>
      unfold startSending
      split
      · exact limited
      · exact limited
  | _ => exact limited

theorem standing_grounded (config : Config) : Standing config Grounded Grounded := by
  constructor
  · exact ⟨.inr ⟨_, holds_allocate config {}⟩, Buffer.limited_new _ _⟩
  · exact id
  · intro before after bytes grounded change
    exact ⟨change.writable grounded.writable, change.limited grounded.limited⟩
  · intro batch grounded memory
    exact ⟨.inr ⟨_, holds_reset ⟨batch, memory⟩⟩, grounded.limited.cleared _ _⟩

/-- As long as its ceiling leaves room, a command is appended. It is counted then, unless as many
commands are pending as a machine word can count. -/
theorem writeCommand_within (holds : before.item.Holds content) (present : arguments ≠ [])
    (within : before.item.writeBuffer.position + Command.encodedSize arguments ≤
      before.item.writeBuffer.ceiling) :
    ∃ after, Buffer.Appended (Command.encode arguments) (sending before) (sending after) ∧
      (before.item.pending < largestWord ∧ writeCommand arguments before = .ok () after ∧
          Extends 1 before.item after.item ∨
        before.item.pending = largestWord ∧
          writeCommand arguments before = .error (.misuse .countOverflow) after ∧
          Extends 0 before.item after.item) := by
  obtain ⟨ready, ensured, reserves⟩ :=
    @Buffer.ensureRemaining_reserves _ _ (sending before) holds.buffer within
  have wrote := writeCommand_eq holds present
  rw [ensured] at wrote
  rw [← Command.size_encode] at ensured reserves
  have appended := reserves.appended holds.buffer ensured
  have countable := before.item.countable
  cases counted : count 1 (stored (withSending before ready) (Command.encode arguments)) with
  | ok value after =>
      obtain ⟨⟨pending, others⟩, buffer, memory⟩ := count_ok counted
      have extended : Extends 1 before.item after.item := by
        refine ⟨pending, ?_⟩
        rw [others]
        rfl
      have same : sending after =
          ⟨ready.item.store (Command.encode arguments), ready.memory⟩ := by
        unfold sending
        rw [buffer, memory]
        rfl
      have more := after.item.countable
      rw [extended.pending] at more
      refine ⟨after, ?_, .inl ⟨more, wrote.trans counted, extended⟩⟩
      rw [same]
      exact appended
  | error failure after =>
      obtain ⟨rfl, beyond, rfl⟩ := count_error counted
      have full : before.item.pending = largestWord := by
        change largestWord < before.item.pending + 1 at beyond
        omega
      exact ⟨stored (withSending before ready) (Command.encode arguments), appended,
        .inr ⟨full, wrote.trans counted, rfl, rfl⟩⟩

/-- A command that does not fit is turned down, and everything is as it was. -/
theorem writeCommand_beyond (holds : before.item.Holds content)
    (limited : before.item.writeBuffer.Limited) (present : arguments ≠ [])
    (beyond : before.item.writeBuffer.ceiling <
      before.item.writeBuffer.position + Command.encodedSize arguments) :
    writeCommand arguments before =
      .error (.outOfMemory
        ⟨min (before.item.writeBuffer.position + Command.encodedSize arguments) largestWord,
          before.item.writeBuffer.ceiling⟩) before := by
  rw [writeCommand_eq holds present,
    @Buffer.ensureRemaining_beyond _ _ (sending before) holds.buffer limited beyond]
  rfl

end Batch

/-! ### Sessions -/

namespace Session

variable {Net Sock : Type}

/-- A command is written exactly or not at all, into any batch of a session that was not sent yet.
The room that is asked for is the size of its encoding: the number of the arguments on a line of its
own, then every argument between its length and the end of a line. It is written if and only if the
ceiling of the send buffer leaves that much room behind the position. Then it stands behind what was
there before, the buffer grew once at most, one more command is pending, and nothing else is
different; with as many commands pending as a machine word can count the call fails all the same,
and the command stays uncounted. Without the room the batch and the engine with its counters are as
they were. -/
theorem writeCommand_atomic (transport : Transport Net Sock) (config : Config)
    (acts : List (Act Net Sock)) {batch : Batch}
    (among : batch ∈ (run transport config acts).held) (unsent : batch.sent = false)
    {arguments : List ByteArray} (present : arguments ≠ []) :
    let engine := (run transport config acts).engine
    let size := Command.encodedSize arguments
    let stop := batch.writeBuffer.position + size
    let done := engine.onBatch batch (Batch.writeCommand arguments)
    ((Command.encode arguments).data.toList =
        Grammar.lengthLine .multibulk (Decimal.numeral arguments.length) ++
          arguments.flatMap fun argument =>
            Grammar.lengthLine .bulk (Decimal.numeral argument.size) ++ argument.data.toList ++
              Grammar.crlf) ∧
      (Command.encode arguments).size = size ∧
      (done.1 = .ok () ↔ stop ≤ batch.writeBuffer.ceiling ∧ batch.pending < largestWord) ∧
      (stop ≤ batch.writeBuffer.ceiling →
        Buffer.Appended (Command.encode arguments) ⟨batch.writeBuffer, engine.memory⟩
            ⟨done.2.1.writeBuffer, done.2.2.memory⟩ ∧
          done.2.2 = { engine with memory := done.2.2.memory } ∧
          (batch.pending < largestWord → Batch.Extends 1 batch done.2.1) ∧
          (batch.pending = largestWord →
            done.1 = .error (.misuse .countOverflow) ∧ Batch.Extends 0 batch done.2.1)) ∧
      (batch.writeBuffer.ceiling < stop →
        done = (.error (.outOfMemory ⟨min stop largestWord, batch.writeBuffer.ceiling⟩), batch,
          engine)) := by
  have every := @Moment.every _ _ transport config _ _ (Batch.standing_grounded config)
    (.between acts)
  intro engine size stop done
  obtain ⟨writable, limited⟩ := every.held batch among
  obtain ⟨content, holds⟩ : ∃ content, batch.Holds content := by
    rcases writable with sent | holds
    · rw [unsent] at sent
      cases sent
    · exact holds
  refine ⟨Command.toList_wire arguments, Command.size_encode arguments, ?_⟩
  by_cases within : stop ≤ batch.writeBuffer.ceiling
  · have beyond : ¬batch.writeBuffer.ceiling < stop := Nat.not_lt_of_le within
    obtain ⟨after, appended, ⟨fewer, wrote, extended⟩ | ⟨full, refused, extended⟩⟩ :=
      @Batch.writeCommand_within _ _ ⟨batch, engine.memory⟩ holds present within
    · have written : done = (.ok (), after.item, { engine with memory := after.memory }) :=
        onBatch_ok wrote
      rw [written]
      exact ⟨⟨fun _ => ⟨within, fewer⟩, fun _ => rfl⟩,
        fun _ => ⟨appended, rfl, fun _ => extended, fun full => absurd full (Nat.ne_of_lt fewer)⟩,
        fun short => absurd short beyond⟩
    · have uncounted : done = (.error (.misuse .countOverflow), after.item,
          { engine with memory := after.memory }) := onBatch_error refused
      have most : ¬batch.pending < largestWord := Nat.not_lt_of_le (Nat.le_of_eq full.symm)
      rw [uncounted]
      exact ⟨⟨nofun, fun both => absurd both.2 most⟩,
        fun _ => ⟨appended, rfl, fun fewer => absurd fewer most, fun _ => ⟨rfl, extended⟩⟩,
        fun short => absurd short beyond⟩
  · have refused := @Batch.writeCommand_beyond _ _ ⟨batch, engine.memory⟩ holds limited present
      (Nat.lt_of_not_le within)
    have kept : done = (.error (.outOfMemory ⟨min stop largestWord, batch.writeBuffer.ceiling⟩),
        batch, engine) := onBatch_error refused
    rw [kept]
    exact ⟨⟨nofun, fun both => absurd both.1 within⟩, fun less => absurd less within, fun _ => rfl⟩

def narrow : Config := { writeBufferSize := 4, maxBufferSize := 16 }

def ping : List ByteArray := [⟨#[80, 73, 78, 71]⟩]

/-- The first PING makes the buffer grow; the second one is turned down. -/
theorem writeCommand_atomic_narrow :
    (∃ batch ∈ (run Round.stranded narrow [.make]).held,
      ((run Round.stranded narrow [.make]).engine.onBatch batch (Batch.writeCommand ping)).1 =
        .ok ()) ∧
      ∃ batch ∈ (run Round.stranded narrow [.make, .use 0 (.command ping)]).held,
        batch.pending = 1 ∧ batch.writeBuffer.filled = Command.encode ping ∧
        (run Round.stranded narrow [.make, .use 0 (.command ping)]).engine.onBatch batch
            (Batch.writeCommand ping) =
          (.error (.outOfMemory ⟨28, 16⟩), batch,
            (run Round.stranded narrow [.make, .use 0 (.command ping)]).engine) := by
  constructor
  · have among := List.get_mem (run Round.stranded narrow [.make]).held ⟨0, by decide +kernel⟩
    have atomic := writeCommand_atomic Round.stranded narrow [.make] among (by decide +kernel)
      (List.cons_ne_nil _ _ : ping ≠ [])
    exact ⟨_, among, atomic.2.2.1.mpr (by decide +kernel)⟩
  · have among := List.get_mem (run Round.stranded narrow [.make, .use 0 (.command ping)]).held
      ⟨0, by decide +kernel⟩
    have atomic := writeCommand_atomic Round.stranded narrow [.make, .use 0 (.command ping)] among
      (by decide +kernel) (List.cons_ne_nil _ _ : ping ≠ [])
    refine ⟨_, among, by decide +kernel, by decide +kernel, ?_⟩
    have kept := atomic.2.2.2.2 (by decide +kernel)
    refine kept.trans (congrArg (fun shortage => (Except.error shortage, _, _)) ?_)
    decide +kernel

/-- A batch with no bytes in it that counts as many commands as a machine word can. -/
def brimming : List (Act Unit Unit) := [.make, .use 0 (.write .empty largestWord)]

/-- There is room for the PING, and it is stored, but the call fails and does not count it. -/
theorem writeCommand_uncounted :
    ∃ batch ∈ (run Round.stranded narrow brimming).held, batch.sent = false ∧
      batch.writeBuffer.position + Command.encodedSize ping ≤ batch.writeBuffer.ceiling ∧
      ∃ after, ((run Round.stranded narrow brimming).engine.onBatch batch
          (Batch.writeCommand ping)).1 = .error (.misuse .countOverflow) ∧
        ((run Round.stranded narrow brimming).engine.onBatch batch
          (Batch.writeCommand ping)).2.1 = after ∧
        batch.writeBuffer.filled = .empty ∧ after.writeBuffer.filled = Command.encode ping ∧
        after.pending = batch.pending := by
  have among := List.get_mem (run Round.stranded narrow brimming).held ⟨0, by decide +kernel⟩
  refine ⟨_, among, by decide +kernel, by decide +kernel, _, ?_, rfl, ?_⟩
  · decide +kernel
  · decide +kernel

end Session

end Fanout
