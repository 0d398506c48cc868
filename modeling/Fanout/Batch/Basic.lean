import Fanout.Buffer.Transfer
import Fanout.Command
import Fanout.Config
import Fanout.Reply.Basic

/-!
A batch: commands out, replies in. Commands are written into the send buffer and counted as
pending; replies are taken in the order of the commands. When the batch is aborted every pending
command is answered by an error reply with one and the same text.
-/

set_option autoImplicit false

namespace Fanout

/-- Where a walk over the replies stands: the next reply, and inside an array its index with the
next element. -/
structure Cursor where
  next : Nat := 0
  child : Option (Nat × Nat) := none
  deriving DecidableEq, Repr

structure Batch where
  writeBuffer : Buffer
  readBuffer : Buffer
  pending : Nat := 0
  replies : Array Reply := #[]
  cursor : Cursor := {}
  abortText : Option String := none
  /-- The send buffer was turned to read mode; no more commands until a reset. -/
  sent : Bool := false
  /-- The count is a machine word. -/
  countable : pending ≤ largestWord := by decide

namespace Batch

abbrev Operation (α : Type) := Attempt (Metered Batch) α

def new (config : Config) : Batch :=
  { writeBuffer := Buffer.new config.writeBufferSize config.maxBufferSize
    readBuffer := Buffer.new config.readBufferSize config.maxBufferSize }

def allocate (config : Config) (memory : MemoryStats) : Metered Batch :=
  let write := Buffer.allocate config.writeBufferSize config.maxBufferSize memory
  let read := Buffer.allocate config.readBufferSize config.maxBufferSize write.memory
  ⟨{ writeBuffer := write.item, readBuffer := read.item }, read.memory⟩

def release (state : Metered Batch) : MemoryStats :=
  Buffer.release ⟨state.item.readBuffer, Buffer.release ⟨state.item.writeBuffer, state.memory⟩⟩

def onWriteBuffer {α : Type} (operation : Buffer.Operation α) : Operation α :=
  operation.within (fun state => ⟨state.item.writeBuffer, state.memory⟩)
    fun state changed =>
      ⟨{ state.item with writeBuffer := changed.item }, changed.memory⟩

def onReadBuffer {α : Type} (operation : Buffer.Operation α) : Operation α :=
  operation.within (fun state => ⟨state.item.readBuffer, state.memory⟩)
    fun state changed =>
      ⟨{ state.item with readBuffer := changed.item }, changed.memory⟩

def hasPending (batch : Batch) : Bool := 0 < batch.pending

def isAborted (batch : Batch) : Bool := batch.abortText.isSome

def requireUnsent : Operation Unit := fun state =>
  if state.item.sent then .error (.misuse .batchExecuted) state else .ok () state

def count (commands : Nat) : Operation Unit := fun state =>
  if countable : state.item.pending + commands ≤ largestWord then
    .ok () { state with
      item := { state.item with
        pending := state.item.pending + commands
        countable := countable } }
  else .error (.misuse .countOverflow) state

/-- Appends bytes that bring `commands` more commands to an end. The commands count only when
the bytes were stored; the bytes stay when the commands are too many to count. -/
def write (bytes : ByteArray) (commands : Nat) : Operation Unit := do
  requireUnsent
  onWriteBuffer (Buffer.write bytes)
  count commands

def writeArguments : List ByteArray → Operation Unit
  | [] => pure ()
  | argument :: others => do
      write (Command.lengthHeader argument) 0
      write argument 0
      write Command.crlf (if others.isEmpty then 1 else 0)
      writeArguments others

/-- Writes one command. Room for all of it is made first, so it is never half written. -/
def writeCommand (arguments : List ByteArray) : Operation Unit := do
  if arguments.isEmpty then throw (.misuse .emptyCommand)
  requireUnsent
  onWriteBuffer (Buffer.ensureRemaining (Command.encodedSize arguments))
  write (Command.countHeader arguments) 0
  writeArguments arguments

def writeGet (key : ByteArray) : Operation Unit :=
  writeCommand ["GET".toUTF8, key]

def writeSet (key value : ByteArray) : Operation Unit :=
  writeCommand ["SET".toUTF8, key, value]

def writeDecimal (value : Int) : Operation Unit :=
  write (Decimal.signedNumeral value).toByteArray 0

def startSending (batch : Batch) : Batch :=
  if batch.sent then batch
  else { batch with writeBuffer := batch.writeBuffer.flip, sent := true }

def answer (batch : Batch) (reply : Reply) : Batch :=
  { batch with
    pending := batch.pending - 1
    replies := batch.replies.push reply
    countable := Nat.le_trans (Nat.sub_le _ _) batch.countable }

def pushReply (reply : Reply) : Operation Unit := fun state =>
  if state.item.hasPending then .ok () { state with item := state.item.answer reply }
  else .error (.misuse .unexpectedReply) state

/-- Answers every pending command with an error reply that carries the text. -/
def failPending (batch : Batch) (text : String) : Batch :=
  { batch with
    pending := 0
    replies := batch.replies ++
      Array.replicate batch.pending (Reply.aborted text.utf8ByteSize)
    abortText := some text
    countable := Nat.zero_le _ }

def abort (text : String) : Operation Unit := fun state =>
  if state.item.isAborted then .error (.misuse .alreadyAborted) state
  else .ok () { state with item := state.item.failPending text }

/-- Empties the batch for another round. Grown buffers give memory back and both are overwritten,
so that nothing of the last round can be seen. -/
def reset (state : Metered Batch) : Metered Batch :=
  let write := Buffer.clear ⟨state.item.writeBuffer, state.memory⟩
  let read := Buffer.clear ⟨state.item.readBuffer, write.memory⟩
  { item :=
      { writeBuffer := write.item.fill Buffer.poisonByte
        readBuffer := read.item.fill Buffer.poisonByte }
    memory := read.memory }

/-- The bytes of a reply of this batch; none for nil and array replies. -/
def replyData (batch : Batch) (reply : Reply) : Except Misuse (Option ByteArray) :=
  match reply.source with
  | .nowhere => .ok none
  | .received => some <$> batch.readBuffer.slice reply.offset reply.length
  | .abortText =>
      match batch.abortText with
      | none => .ok none
      | some text =>
          if reply.length ≤ text.utf8ByteSize then
            .ok (some (text.toUTF8.extract 0 reply.length))
          else .error .outOfRange

end Batch

end Fanout
