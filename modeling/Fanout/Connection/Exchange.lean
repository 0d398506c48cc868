import Fanout.Batch.Basic
import Fanout.Connection.Basic
import Fanout.Transport

/-!
Moving the bytes of one batch over an open socket. Sending goes on until everything was taken and
receiving until every command has its reply, both only as far as the socket allows without
waiting. Both end: a byte taken is not offered again, a byte received leaves less room, and a
socket is not interrupted for ever.
-/

set_option autoImplicit false

namespace Fanout

variable {Net Sock : Type}

inductive SendEnd where
  | drained
  | blocked
  | failed (error : IoError)
  deriving DecidableEq, Repr

/-- Sends until the buffer is drained. A socket that takes nothing without an error is broken. -/
def sendPending (transport : Transport Net Sock) (buffer : Buffer) (socket : Sock) :
    SendEnd × Buffer × Sock :=
  if buffer.remaining = 0 then (.drained, buffer, socket)
  else
    match _sent : buffer.send transport.send socket with
    | (.ok 0, after, socket) => (.failed .writeZero, after, socket)
    | (.ok (_ + 1), after, socket) => sendPending transport after socket
    | (.error .wouldBlock, after, socket) => (.blocked, after, socket)
    | (.error .interrupted, after, socket) => sendPending transport after socket
    | (.error error, after, socket) => (.failed error, after, socket)
termination_by (buffer.remaining, transport.patience socket)
decreasing_by
  · have shrinks := Buffer.send_ok _sent
    exact Prod.Lex.left _ _ (by omega)
  · have kept := Buffer.send_error _sent
    rw [kept.1]
    exact Prod.Lex.right _ (transport.send_interrupted _ _ _ kept.2)

structure Intake (Sock : Type) where
  parser : Parser
  batch : Batch
  memory : MemoryStats
  socket : Sock
  /-- The first rule of use that was broken. -/
  breach : Option Misuse := none

inductive IntakeEnd where
  | answered
  | blocked
  | failed (cause : AbortCause)
  deriving DecidableEq, Repr

namespace Intake

def receive (transport : Transport Net Sock) (intake : Intake Sock) :
    Except Failure Nat × Intake Sock :=
  let (result, received, socket) := Buffer.receive transport.receive intake.socket
    ⟨intake.batch.readBuffer, intake.memory⟩
  (result, { intake with
    batch := { intake.batch with readBuffer := received.item }
    memory := received.memory
    socket := socket })

theorem receive_ok {transport : Transport Net Sock} {intake next : Intake Sock} {count : Nat}
    (received : intake.receive transport = (.ok (count + 1), next)) :
    next.batch.pending = intake.batch.pending ∧
      next.batch.readBuffer.roomLeft < intake.batch.readBuffer.roomLeft := by
  simp only [receive, Prod.mk.injEq] at received
  obtain ⟨counted, rfl⟩ := received
  exact ⟨rfl, Buffer.receive_ok (Prod.ext counted rfl)⟩

theorem receive_interrupted {transport : Transport Net Sock} {intake next : Intake Sock}
    (received : intake.receive transport = (.error (.io .interrupted), next)) :
    next.batch.pending = intake.batch.pending ∧
      next.batch.readBuffer.roomLeft = intake.batch.readBuffer.roomLeft ∧
      transport.patience next.socket < transport.patience intake.socket := by
  simp only [receive, Prod.mk.injEq] at received
  obtain ⟨failed, rfl⟩ := received
  obtain ⟨kept, ⟨room, answer⟩ | ⟨shortage, impossible⟩⟩ := Buffer.receive_io (Prod.ext failed rfl)
  · exact ⟨rfl, kept, transport.receive_interrupted _ _ _ answer⟩
  · cases impossible

/-- The parser refuses to start beyond what was received. Where it was once let in it stays inside,
so this is asked in front of `run` only. -/
def rejected (parser : Parser) (batch : Batch) : Option Misuse :=
  if batch.pending = 0 then none else Misuse.of? (parser.execute batch.readBuffer.filled)

def checked (intake : Intake Sock) : Intake Sock :=
  { intake with breach := intake.breach.or (rejected intake.parser intake.batch) }

/-- A buffer that is in no state to receive breaks a rule of its own. -/
def noted (intake : Intake Sock) (failure : Failure) : Intake Sock :=
  { intake with breach := intake.breach.or failure.rule? }

/-- Takes replies out of what was received, and asks for more while commands are pending. -/
def run (transport : Transport Net Sock) (intake : Intake Sock) : IntakeEnd × Intake Sock :=
  if _pending : intake.batch.pending = 0 then (.answered, intake)
  else
    match intake.parser.run intake.batch.readBuffer.filled with
    | (parser, .complete reply) =>
        run transport { intake with parser := parser, batch := intake.batch.answer reply }
    | (parser, .malformed _) => (.failed .malformedReply, { intake with parser := parser })
    | (parser, .incomplete) =>
        match _received : receive transport { intake with parser := parser } with
        | (.ok 0, next) => (.failed .readEof, next)
        | (.ok (_ + 1), next) => run transport next
        | (.error (.io .wouldBlock), next) => (.blocked, next)
        | (.error (.io .interrupted), next) => run transport next
        | (.error failure, next) => (.failed (.readFailed failure), next.noted failure)
termination_by
  (intake.batch.pending, intake.batch.readBuffer.roomLeft, transport.patience intake.socket)
decreasing_by
  · exact Prod.Lex.left _ _ (by simp only [Batch.answer]; omega)
  · obtain ⟨same, less⟩ := receive_ok _received
    rw [same]
    exact Prod.Lex.right _ (Prod.Lex.left _ _ less)
  · obtain ⟨same, kept, less⟩ := receive_interrupted _received
    rw [same, kept]
    exact Prod.Lex.right _ (Prod.Lex.right _ less)

end Intake

end Fanout
