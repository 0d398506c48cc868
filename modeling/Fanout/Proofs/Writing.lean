import Fanout.Proofs.Intake
import Fanout.Proofs.Ledger

/-!
Writing into a batch. A call that succeeds puts its bytes behind those that are there already; a
call that fails leaves the batch as it was, and a command is never half written: room for all of it
is made before its first byte.
-/

set_option autoImplicit false

namespace Fanout

/-! ### Sizes of encodings -/

theorem Decimal.length_numeral (value : Nat) : (numeral value).length = width value := by
  fun_induction numeral value with
  | case1 value small => rw [width, if_pos small, List.length_singleton]
  | case2 value large ih =>
      rw [width, if_neg large, List.length_append, List.length_singleton, ih]

namespace Command

theorem size_header (lead : UInt8) (number : Nat) :
    (header lead number).size = 1 + Decimal.width number + 2 := by
  have line : (lead :: Decimal.numeral number).toByteArray.size = 1 + Decimal.width number := by
    rw [List.size_toByteArray, List.length_cons, Decimal.length_numeral, Nat.add_comm]
  rw [header, ByteArray.size_append, line]
  rfl

theorem size_encodeArgument (argument : ByteArray) :
    (encodeArgument argument).size = encodedArgumentSize argument := by
  rw [encodeArgument, ByteArray.size_append, ByteArray.size_append, lengthHeader, size_header]
  rfl

def appendArguments (bytes : ByteArray) (arguments : List ByteArray) : ByteArray :=
  arguments.foldl (fun bytes argument => bytes ++ encodeArgument argument) bytes

theorem appendArguments_append (first second : ByteArray) (arguments : List ByteArray) :
    appendArguments (first ++ second) arguments = first ++ appendArguments second arguments := by
  unfold appendArguments
  induction arguments generalizing second with
  | nil => rfl
  | cons argument others ih =>
      rw [List.foldl_cons, List.foldl_cons, ByteArray.append_assoc]
      exact ih (second ++ encodeArgument argument)

theorem size_appendArguments (bytes : ByteArray) (arguments : List ByteArray) :
    (appendArguments bytes arguments).size =
      arguments.foldl (fun size argument => size + encodedArgumentSize argument) bytes.size := by
  unfold appendArguments
  induction arguments generalizing bytes with
  | nil => rfl
  | cons argument others ih =>
      rw [List.foldl_cons, List.foldl_cons, ih, ByteArray.size_append, size_encodeArgument]

theorem size_le_appendArguments (bytes : ByteArray) (arguments : List ByteArray) :
    bytes.size ≤ (appendArguments bytes arguments).size := by
  have front := appendArguments_append bytes .empty arguments
  rw [ByteArray.append_empty] at front
  rw [front, ByteArray.size_append]
  exact Nat.le_add_right _ _

/-- The size that is asked for in advance is the size of what is written. -/
theorem size_encode (arguments : List ByteArray) :
    (encode arguments).size = encodedSize arguments := by
  have size := size_appendArguments (countHeader arguments) arguments
  rw [countHeader, size_header] at size
  exact size

end Command

/-! ### Buffers -/

namespace Buffer

structure Holds (content : ByteArray) (buffer : Buffer) : Prop where
  filled : buffer.filled = content
  writeMode : buffer.limit = buffer.capacity
  inside : buffer.position ≤ buffer.capacity

variable {content bytes : ByteArray} {amount : Nat} {state after : Metered Buffer}

theorem holds_of_start {buffer : Buffer} (start : buffer.position = 0)
    (writeMode : buffer.limit = buffer.capacity) : buffer.Holds .empty := by
  refine ⟨?_, writeMode, ?_⟩
  · unfold filled
    rw [start]
    exact ByteArray.extract_eq_empty_iff.mpr (Nat.min_le_left _ _)
  · rw [start]
    exact Nat.zero_le _

theorem holds_new (size ceiling : Nat) : (new size ceiling).Holds .empty :=
  holds_of_start rfl (size_solid size poisonByte).symm

/-- Whatever a buffer was used for, clearing it brings it back to its start, in write mode. -/
theorem clear_start (state : Metered Buffer) :
    (clear state).item.position = 0 ∧ (clear state).item.limit = (clear state).item.capacity := by
  unfold clear
  dsimp only
  split
  · exact ⟨rfl, (size_solid _ _).symm⟩
  · exact ⟨rfl, rfl⟩

theorem holds_cleared (state : Metered Buffer) (byte : UInt8) :
    ((clear state).item.fill byte).Holds .empty := by
  obtain ⟨start, writeMode⟩ := clear_start state
  exact holds_of_start start (writeMode.trans (size_solid _ _).symm)

theorem ensureRemaining_room (ensured : ensureRemaining amount state = .ok () after) :
    amount ≤ after.item.remaining := by
  unfold ensureRemaining at ensured
  dsimp only at ensured
  split at ensured
  · cases ensured
  · split at ensured
    · rename_i room
      cases ensured
      exact room
    · split at ensured
      · cases ensured
      · cases ensured
        have grown := le_doubledUntil (state.item.position + amount) (max state.item.limit 1)
          (by omega)
        simp only [remaining, extend, grownCapacity]
        omega

theorem ensureRemaining_of_room (holds : state.item.Holds content)
    (room : amount ≤ state.item.remaining) : ensureRemaining amount state = .ok () state := by
  unfold ensureRemaining
  dsimp only
  rw [if_neg (not_not_intro holds.writeMode), if_pos room]

theorem Holds.ensured (holds : state.item.Holds content)
    (ensured : ensureRemaining amount state = .ok () after) : after.item.Holds content := by
  obtain ⟨filled, inside⟩ := ensureRemaining_filled holds.inside ensured
  exact ⟨filled.trans holds.filled, (ensureRemaining_ok ensured).2.1, inside⟩

theorem Holds.room {buffer : Buffer} (holds : buffer.Holds content)
    (room : bytes.size ≤ buffer.remaining) : buffer.position + bytes.size ≤ buffer.capacity := by
  have inside := holds.inside
  rw [← holds.writeMode] at inside ⊢
  unfold remaining at room
  omega

theorem Holds.store {buffer : Buffer} (holds : buffer.Holds content)
    (room : bytes.size ≤ buffer.remaining) : (buffer.store bytes).Holds (content ++ bytes) := by
  refine ⟨?_, ?_, inside_store holds.inside bytes⟩
  · rw [filled_store holds.inside, holds.filled]
  · rw [capacity_store buffer bytes (holds.room room)]
    exact holds.writeMode

theorem remaining_store {buffer : Buffer} (bytes : ByteArray) :
    (buffer.store bytes).remaining = buffer.remaining - bytes.size := by
  simp only [remaining, Buffer.store]
  omega

/-- Behind what is stored the region stays as it was. -/
theorem behind_store {buffer : Buffer} (room : buffer.position + bytes.size ≤ buffer.capacity)
    (stop : Nat) :
    (buffer.store bytes).data.extract (buffer.position + bytes.size + stop) buffer.capacity =
      buffer.data.extract (buffer.position + bytes.size + stop) buffer.capacity := by
  have size : (buffer.filled ++ bytes).size = buffer.position + bytes.size := by
    rw [ByteArray.size_append, size_filled (Nat.le_trans (Nat.le_add_right _ _) room)]
  obtain ⟨rest, whole⟩ := Nat.exists_eq_add_of_le room
  change (buffer.filled ++ bytes ++ buffer.data.extract (buffer.position + bytes.size)
    buffer.capacity).extract _ _ = _
  rw [whole, ByteArray.extract_append_size_add' size.symm, ByteArray.extract_extract, Nat.min_self]

/-- To store twice is to store both at once. -/
theorem store_store {buffer : Buffer} {first second : ByteArray}
    (room : buffer.position + first.size ≤ buffer.capacity) :
    (buffer.store first).store second = buffer.store (first ++ second) := by
  have inside : buffer.position ≤ buffer.capacity := Nat.le_trans (Nat.le_add_right _ _) room
  have stop : buffer.position + (first ++ second).size =
      buffer.position + first.size + second.size := by
    rw [ByteArray.size_append, Nat.add_assoc]
  have data : ((buffer.store first).store second).data = (buffer.store (first ++ second)).data := by
    calc ((buffer.store first).store second).data
      _ = (buffer.store first).filled ++ second ++ (buffer.store first).data.extract
          (buffer.position + first.size + second.size) (buffer.store first).capacity := rfl
      _ = buffer.filled ++ (first ++ second) ++ buffer.data.extract
          (buffer.position + (first ++ second).size) buffer.capacity := by
        rw [filled_store inside, capacity_store buffer first room, behind_store room, stop,
          ByteArray.append_assoc (a := buffer.filled)]
      _ = (buffer.store (first ++ second)).data := rfl
  calc (buffer.store first).store second
    _ = { buffer with
          data := ((buffer.store first).store second).data
          position := buffer.position + first.size + second.size } := rfl
    _ = buffer.store (first ++ second) := by
      rw [data, ← stop]
      rfl

theorem write_eq (bytes : ByteArray) (state : Metered Buffer) :
    write bytes state =
      match ensureRemaining bytes.size state with
      | .ok () ready => .ok () { ready with item := ready.item.store bytes }
      | .error failure kept => .error failure kept := by
  unfold write
  simp only [Bind.bind, EStateM.bind]
  cases ensureRemaining bytes.size state with
  | ok value ready => rfl
  | error failure kept => rfl

theorem write_ok (holds : state.item.Holds content) (wrote : write bytes state = .ok () after) :
    after.item.Holds (content ++ bytes) := by
  rw [write_eq] at wrote
  split at wrote
  · rename_i ready ensured
    cases wrote
    exact (holds.ensured ensured).store (ensureRemaining_room ensured)
  · cases wrote

theorem write_error {failure : Failure} (refused : write bytes state = .error failure after) :
    after = state := by
  rw [write_eq] at refused
  split at refused
  · cases refused
  · rename_i failure kept ensured
    cases refused
    exact ensureRemaining_error ensured

theorem ensureRemaining_uncounted {failure : Failure}
    (refused : ensureRemaining amount state = .error failure after) :
    failure ≠ .misuse .countOverflow := by
  unfold ensureRemaining at refused
  dsimp only at refused
  repeat' split at refused
  all_goals cases refused
  all_goals
    intro same
    cases same

theorem write_uncounted {failure : Failure} (refused : write bytes state = .error failure after) :
    failure ≠ .misuse .countOverflow := by
  rw [write_eq] at refused
  split at refused
  · cases refused
  · rename_i failure kept ensured
    cases refused
    exact ensureRemaining_uncounted ensured

theorem write_of_room (holds : state.item.Holds content)
    (room : bytes.size ≤ state.item.remaining) :
    write bytes state = .ok () { state with item := state.item.store bytes } := by
  rw [write_eq, ensureRemaining_of_room holds room]

end Buffer

/-! ### Batches -/

namespace Batch

structure Holds (content : ByteArray) (batch : Batch) : Prop where
  unsent : batch.sent = false
  buffer : batch.writeBuffer.Holds content

structure Extends (commands : Nat) (before after : Batch) : Prop where
  pending : after.pending = before.pending + commands
  others : after = { before with
    writeBuffer := after.writeBuffer
    pending := after.pending
    countable := after.countable }

theorem Extends.replies {commands : Nat} {before after : Batch}
    (extended : Extends commands before after) : after.replies = before.replies := by
  rw [extended.others]

variable {content bytes : ByteArray} {commands : Nat} {arguments : List ByteArray}
  {state after : Metered Batch}

theorem Holds.extends {before after : Batch} (holds : before.Holds content)
    (extended : Extends commands before after) (buffer : after.writeBuffer.Holds bytes) :
    after.Holds bytes := by
  refine ⟨?_, buffer⟩
  rw [extended.others]
  exact holds.unsent

theorem requireUnsent_of_holds (holds : state.item.Holds content) :
    requireUnsent state = .ok () state := by
  unfold requireUnsent
  rw [holds.unsent]
  rfl

theorem count_zero (state : Metered Batch) : count 0 state = .ok () state :=
  dif_pos state.item.countable

theorem count_ok (counted : count commands state = .ok () after) :
    Extends commands state.item after.item ∧
      after.item.writeBuffer = state.item.writeBuffer ∧ after.memory = state.memory := by
  unfold count at counted
  split at counted
  · cases counted
    exact ⟨⟨rfl, rfl⟩, rfl, rfl⟩
  · cases counted

theorem count_error {failure : Failure} (refused : count commands state = .error failure after) :
    failure = .misuse .countOverflow ∧ largestWord < state.item.pending + commands ∧
      after = state := by
  unfold count at refused
  split at refused
  · cases refused
  · rename_i beyond
    cases refused
    exact ⟨rfl, Nat.lt_of_not_le beyond, rfl⟩

def sending (state : Metered Batch) : Metered Buffer := ⟨state.item.writeBuffer, state.memory⟩

def withSending (state : Metered Batch) (changed : Metered Buffer) : Metered Batch :=
  { item := { state.item with writeBuffer := changed.item }, memory := changed.memory }

theorem write_eq (holds : state.item.Holds content) (bytes : ByteArray) (commands : Nat) :
    write bytes commands state =
      match Buffer.write bytes (sending state) with
      | .ok () changed => count commands (withSending state changed)
      | .error failure _ => .error failure state := by
  unfold write
  simp only [Bind.bind, EStateM.bind, requireUnsent_of_holds holds, onWriteBuffer, Attempt.within]
  unfold sending
  cases wrote : Buffer.write bytes ⟨state.item.writeBuffer, state.memory⟩ with
  | ok value changed => rfl
  | error failure changed =>
      rw [Buffer.write_error wrote]

theorem write_ok (holds : state.item.Holds content)
    (wrote : write bytes commands state = .ok () after) :
    after.item.Holds (content ++ bytes) ∧ Extends commands state.item after.item := by
  rw [write_eq holds] at wrote
  split at wrote
  · rename_i changed stored
    obtain ⟨⟨pending, others⟩, buffer, _⟩ := count_ok wrote
    have extended : Extends commands state.item after.item := by
      refine ⟨pending, ?_⟩
      rw [others]
      rfl
    refine ⟨holds.extends extended ?_, extended⟩
    rw [buffer]
    exact Buffer.write_ok holds.buffer stored
  · cases wrote

/-- A write that is turned down leaves the batch as it was, or with the bytes of commands that are
too many to count. -/
theorem write_error {failure : Failure} (holds : state.item.Holds content)
    (refused : write bytes commands state = .error failure after) :
    after = state ∧ failure ≠ .misuse .countOverflow ∨
      failure = .misuse .countOverflow ∧ largestWord < state.item.pending + commands ∧
        after.item.Holds (content ++ bytes) ∧ Extends 0 state.item after.item := by
  rw [write_eq holds] at refused
  split at refused
  · rename_i changed stored
    obtain ⟨rfl, beyond, rfl⟩ := count_error refused
    exact .inr ⟨rfl, beyond, ⟨holds.unsent, Buffer.write_ok holds.buffer stored⟩, rfl, rfl⟩
  · rename_i kept changed short
    cases refused
    exact .inl ⟨rfl, Buffer.write_uncounted short⟩

def stored (state : Metered Batch) (bytes : ByteArray) : Metered Batch :=
  withSending state ⟨state.item.writeBuffer.store bytes, state.memory⟩

theorem Holds.stored (holds : state.item.Holds content)
    (room : bytes.size ≤ state.item.writeBuffer.remaining) :
    (stored state bytes).item.Holds (content ++ bytes) :=
  ⟨holds.unsent, holds.buffer.store room⟩

theorem write_of_room (holds : state.item.Holds content)
    (room : bytes.size ≤ state.item.writeBuffer.remaining) (commands : Nat) :
    write bytes commands state = count commands (stored state bytes) := by
  have wrote := @Buffer.write_of_room _ _ (sending state) holds.buffer room
  rw [write_eq holds, wrote]
  rfl

/-- Behind bytes that were stored, with room for more, the write goes on as one with them. -/
theorem stored_bind {more : ByteArray} (holds : state.item.Holds content)
    (room : (bytes ++ more).size ≤ state.item.writeBuffer.remaining) (commands : Nat)
    (next : Operation Unit) :
    (write more commands >>= fun _ => next) (stored state bytes) =
      (count commands >>= fun _ => next) (stored state (bytes ++ more)) := by
  rw [ByteArray.size_append] at room
  have left : more.size ≤ (stored state bytes).item.writeBuffer.remaining := by
    change more.size ≤ (state.item.writeBuffer.store bytes).remaining
    rw [Buffer.remaining_store]
    omega
  have joined : stored (stored state bytes) more = stored state (bytes ++ more) := by
    unfold stored withSending
    dsimp only
    rw [Buffer.store_store (holds.buffer.room (by omega))]
  have wrote := write_of_room (holds.stored (by omega)) left commands
  simp only [Bind.bind, EStateM.bind, wrote, joined]

theorem count_zero_bind (next : Operation Unit) (state : Metered Batch) :
    (count 0 >>= fun _ => next) state = next state := by
  simp only [Bind.bind, EStateM.bind, count_zero]

theorem count_pure (commands : Nat) (state : Metered Batch) :
    (count commands >>= fun _ => pure ()) state = count commands state := by
  simp only [Bind.bind, EStateM.bind]
  cases count commands state with
  | ok value after => rfl
  | error failure after => rfl

/-- With room for all of them the arguments are all stored, and the last one ends the command. -/
theorem writeArguments_stored (arguments : List ByteArray) (holds : state.item.Holds content)
    (room : (Command.appendArguments bytes arguments).size ≤ state.item.writeBuffer.remaining) :
    writeArguments arguments (stored state bytes) =
      count (if arguments.isEmpty then 0 else 1)
        (stored state (Command.appendArguments bytes arguments)) := by
  induction arguments generalizing bytes with
  | nil => exact (count_zero _).symm
  | cons argument others ih =>
      have whole : Command.appendArguments bytes (argument :: others) =
          Command.appendArguments (bytes ++ Command.lengthHeader argument ++ argument ++
            Command.crlf) others := by
        unfold Command.appendArguments
        rw [List.foldl_cons, Command.encodeArgument]
        simp only [ByteArray.append_assoc]
      rw [whole] at room ⊢
      have fits := Nat.le_trans (Command.size_le_appendArguments _ others) room
      simp only [ByteArray.size_append] at fits
      unfold writeArguments
      rw [stored_bind holds (by simp only [ByteArray.size_append]; omega), count_zero_bind,
        stored_bind holds (by simp only [ByteArray.size_append]; omega), count_zero_bind,
        stored_bind holds (by simp only [ByteArray.size_append]; omega)]
      cases others with
      | nil => exact count_pure 1 _
      | cons other others =>
          rw [List.isEmpty_cons, if_neg Bool.false_ne_true, count_zero_bind, ih room]
          rfl

/-- With room for the whole of it, a command is stored as one piece and counted then. -/
theorem writeCommand_eq (holds : state.item.Holds content) (present : arguments ≠ []) :
    writeCommand arguments state =
      match Buffer.ensureRemaining (Command.encodedSize arguments) (sending state) with
      | .ok () ready => count 1 (stored (withSending state ready) (Command.encode arguments))
      | .error failure _ => .error failure state := by
  have some' : arguments.isEmpty = false := List.isEmpty_eq_false_iff.mpr present
  unfold writeCommand sending
  simp only [some', Bool.false_eq_true, if_false, Bind.bind, EStateM.bind,
    requireUnsent_of_holds holds, onWriteBuffer, Attempt.within]
  cases ensured : Buffer.ensureRemaining (Command.encodedSize arguments)
      ⟨state.item.writeBuffer, state.memory⟩ with
  | error failure kept => rw [Buffer.ensureRemaining_error ensured]
  | ok value ready =>
      have room : (Command.encode arguments).size ≤ ready.item.remaining := by
        rw [Command.size_encode]
        exact Buffer.ensureRemaining_room ensured
      have made : (withSending state ready).item.Holds content :=
        ⟨holds.unsent, Buffer.Holds.ensured holds.buffer ensured⟩
      have front := Command.size_le_appendArguments (Command.countHeader arguments) arguments
      have headed := write_of_room made (Nat.le_trans front room) 0
      rw [count_zero] at headed
      have rest := writeArguments_stored arguments made room
      rw [some', if_neg Bool.false_ne_true] at rest
      have whole : (write (Command.countHeader arguments) 0 >>= fun _ => writeArguments arguments)
          (withSending state ready) =
            count 1 (stored (withSending state ready) (Command.encode arguments)) := by
        simp only [Bind.bind, EStateM.bind, headed, rest]
        rfl
      exact whole

/-- A command is written as a whole or not at all; a whole one may still be one too many to
count. -/
theorem writeCommand_cases (holds : state.item.Holds content) (arguments : List ByteArray) :
    (∃ after, writeCommand arguments state = .ok () after ∧ arguments ≠ [] ∧
        after.item.Holds (content ++ Command.encode arguments) ∧
        Extends 1 state.item after.item) ∨
      (∃ failure, writeCommand arguments state = .error failure state ∧
        failure ≠ .misuse .countOverflow) ∨
      ∃ after, writeCommand arguments state = .error (.misuse .countOverflow) after ∧
        arguments ≠ [] ∧ state.item.pending = largestWord ∧
        after.item.Holds (content ++ Command.encode arguments) ∧
        Extends 0 state.item after.item := by
  cases arguments with
  | nil => exact .inr (.inl ⟨_, rfl, by decide⟩)
  | cons argument others =>
      have present := List.cons_ne_nil argument others
      rw [writeCommand_eq holds present]
      cases ensured : Buffer.ensureRemaining (Command.encodedSize (argument :: others))
          (sending state) with
      | error failure kept =>
          exact .inr (.inl ⟨failure, rfl, Buffer.ensureRemaining_uncounted ensured⟩)
      | ok value ready =>
          have room : (Command.encode (argument :: others)).size ≤ ready.item.remaining := by
            rw [Command.size_encode]
            exact Buffer.ensureRemaining_room ensured
          have made : (withSending state ready).item.Holds content :=
            ⟨holds.unsent, Buffer.Holds.ensured holds.buffer ensured⟩
          have held := made.stored room
          cases counted : count 1
              (stored (withSending state ready) (Command.encode (argument :: others))) with
          | ok value after =>
              obtain ⟨⟨pending, others⟩, buffer, _⟩ := count_ok counted
              have extended : Extends 1 state.item after.item := by
                refine ⟨pending, ?_⟩
                rw [others]
                rfl
              refine .inl ⟨after, counted, present, holds.extends extended ?_, extended⟩
              rw [buffer]
              exact held.buffer
          | error failure after =>
              obtain ⟨rfl, beyond, rfl⟩ := count_error counted
              have full : state.item.pending = largestWord := by
                have countable := state.item.countable
                change largestWord < state.item.pending + 1 at beyond
                omega
              exact .inr (.inr ⟨_, counted, present, full, held, rfl, rfl⟩)

end Batch

/-! ### Calls -/

namespace Call

def operation : Call → Batch.Operation Unit
  | .write bytes commands => Batch.write bytes commands
  | .command arguments => Batch.writeCommand arguments
  | .decimal value => Batch.writeDecimal value
  | .abort text => Batch.abort text
  | .reset => fun state => .ok () (Batch.reset state)

def writes (content : ByteArray) : Call → ByteArray
  | .write bytes _ => content ++ bytes
  | .command arguments => content ++ Command.encode arguments
  | .decimal value => content ++ (Decimal.signedNumeral value).toByteArray
  | .abort _ => content
  | .reset => .empty

end Call

namespace Batch

variable {content : ByteArray} {state after : Metered Batch}

theorem holds_allocate (config : Config) (memory : MemoryStats) :
    (allocate config memory).item.Holds .empty :=
  ⟨rfl, Buffer.holds_new _ _⟩

theorem holds_reset (state : Metered Batch) : (reset state).item.Holds .empty :=
  ⟨rfl, Buffer.holds_cleared _ _⟩

theorem Holds.call (holds : state.item.Holds content) {call : Call}
    (done : call.operation state = .ok () after) : after.item.Holds (call.writes content) := by
  cases call with
  | write bytes commands => exact (write_ok holds done).1
  | decimal value => exact (write_ok holds done).1
  | command arguments =>
      rcases writeCommand_cases holds arguments with
        ⟨_, wrote, _, holds', _⟩ | ⟨failure, refused, _⟩ | ⟨_, refused, _⟩
      · cases wrote.symm.trans done
        exact holds'
      · cases refused.symm.trans done
      · cases refused.symm.trans done
  | abort text =>
      unfold Call.operation abort at done
      dsimp only at done
      split at done
      · cases done
      · cases done
        exact ⟨holds.unsent, holds.buffer⟩
  | reset =>
      cases done
      exact holds_reset state

/-- A call that fails leaves the batch as it was, unless its commands are too many to count: then
what it writes is there and counts for nothing. -/
theorem Holds.refused (call : Call) (holds : state.item.Holds content) {failure : Failure}
    (refused : call.operation state = .error failure after) :
    after = state ∧ failure ≠ .misuse .countOverflow ∨
      failure = .misuse .countOverflow ∧ after.item.Holds (call.writes content) := by
  cases call with
  | write bytes commands =>
      exact (write_error holds refused).imp_right fun ⟨beyond, _, held, _⟩ => ⟨beyond, held⟩
  | decimal value =>
      exact (write_error holds refused).imp_right fun ⟨beyond, _, held, _⟩ => ⟨beyond, held⟩
  | command arguments =>
      rcases writeCommand_cases holds arguments with
        ⟨_, wrote, _⟩ | ⟨failure, kept, counts⟩ | ⟨_, beyond, _, _, held, _⟩
      · cases wrote.symm.trans refused
      · cases kept.symm.trans refused
        exact .inl ⟨rfl, counts⟩
      · cases beyond.symm.trans refused
        exact .inr ⟨rfl, held⟩
  | abort text =>
      unfold Call.operation abort at refused
      dsimp only at refused
      split at refused
      · cases refused
        exact .inl ⟨rfl, by decide⟩
      · cases refused
  | reset => cases refused

/-- The bytes that were written into a batch since it was empty. It does not matter what it was
used for before its last reset. -/
inductive Written : ByteArray → Metered Batch → Prop
  | new (config : Config) (memory : MemoryStats) : Written .empty (allocate config memory)
  | reset (used : Metered Batch) : Written .empty (Batch.reset used)
  | done {content : ByteArray} {state after : Metered Batch} {call : Call}
      (written : Written content state) (done : call.operation state = .ok () after) :
      Written (call.writes content) after
  | refused {content : ByteArray} {state after : Metered Batch} {call : Call} {failure : Failure}
      (written : Written content state) (refused : call.operation state = .error failure after)
      (counts : failure ≠ .misuse .countOverflow) : Written content after
  | uncounted {content : ByteArray} {state after : Metered Batch} {call : Call}
      (written : Written content state)
      (refused : call.operation state = .error (.misuse .countOverflow) after) :
      Written (call.writes content) after

theorem Written.holds (written : Written content state) : state.item.Holds content := by
  induction written with
  | new config memory => exact holds_allocate config memory
  | reset used => exact holds_reset used
  | done written done ih => exact ih.call done
  | refused written refused counts ih =>
      obtain ⟨rfl, _⟩ | ⟨beyond, _⟩ := ih.refused _ refused
      · exact ih
      · exact absurd beyond counts
  | uncounted written refused ih =>
      obtain ⟨_, counts⟩ | ⟨_, held⟩ := ih.refused _ refused
      · exact absurd rfl counts
      · exact held

/-- The commands that were written into a batch since it was empty, and nothing else was done with
it. Commands that were turned down do not count. -/
inductive Composed : List (List ByteArray) → Metered Batch → Prop
  | new (config : Config) (memory : MemoryStats) : Composed [] (allocate config memory)
  | reset (used : Metered Batch) : Composed [] (Batch.reset used)
  | command {commands : List (List ByteArray)} {arguments : List ByteArray}
      {state after : Metered Batch} (composed : Composed commands state)
      (wrote : writeCommand arguments state = .ok () after) :
      Composed (commands ++ [arguments]) after
  | refused {commands : List (List ByteArray)} {arguments : List ByteArray}
      {state after : Metered Batch} {failure : Failure} (composed : Composed commands state)
      (refused : writeCommand arguments state = .error failure after)
      (counts : failure ≠ .misuse .countOverflow) : Composed commands after

end Batch

def Command.encodeAll (commands : List (List ByteArray)) : ByteArray :=
  commands.foldl (fun bytes arguments => bytes ++ encode arguments) .empty

theorem Command.encodeAll_snoc (commands : List (List ByteArray)) (arguments : List ByteArray) :
    encodeAll (commands ++ [arguments]) = encodeAll commands ++ encode arguments := by
  rw [encodeAll, List.foldl_append]
  rfl

namespace Batch.Composed

variable {commands : List (List ByteArray)} {state : Metered Batch}

theorem written (composed : Composed commands state) :
    Written (Command.encodeAll commands) state := by
  induction composed with
  | new config memory => exact .new config memory
  | reset used => exact .reset used
  | @command commands arguments state after composed wrote ih =>
      rw [Command.encodeAll_snoc]
      exact @Written.done _ _ _ (.command arguments) ih wrote
  | @refused commands arguments state after failure composed refused counts ih =>
      exact @Written.refused _ _ _ (.command arguments) _ ih refused counts

structure Fresh (commands : List (List ByteArray)) (batch : Batch) : Prop where
  pending : batch.pending = commands.length
  unanswered : batch.replies = #[]
  empty : batch.readBuffer.position = 0
  plain : batch.abortText = none

theorem fresh (composed : Composed commands state) : Fresh commands state.item := by
  induction composed with
  | new config memory => exact ⟨rfl, rfl, rfl, rfl⟩
  | reset used =>
      have start := (Buffer.clear_start ⟨used.item.readBuffer,
        (Buffer.clear ⟨used.item.writeBuffer, used.memory⟩).memory⟩).1
      exact ⟨rfl, rfl, start, rfl⟩
  | @command commands arguments state after composed wrote ih =>
      rcases writeCommand_cases composed.written.holds arguments with
        ⟨_, wrote', _, _, extended⟩ | ⟨failure, refused, _⟩ | ⟨_, refused, _⟩
      · cases wrote'.symm.trans wrote
        obtain ⟨pending, unanswered, empty, plain⟩ := ih
        have more := extended.pending
        rw [extended.others]
        refine ⟨?_, unanswered, empty, plain⟩
        rw [List.length_append, List.length_singleton, ← pending]
        exact more
      · cases refused.symm.trans wrote
      · cases refused.symm.trans wrote
  | @refused commands arguments state after failure composed refused counts ih =>
      obtain ⟨rfl, _⟩ | ⟨beyond, _⟩ :=
        Holds.refused (.command arguments) composed.written.holds refused
      · exact ih
      · exact absurd beyond counts

end Batch.Composed

end Fanout
