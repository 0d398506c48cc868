import Fanout.Connection.Exchange
import Fanout.Interests
import Fanout.Text.Truncation

/-!
A turn: one connection serves one batch as one pair of a round, as far as it can without waiting.
Whatever goes wrong ends in `abort`, which answers all pending commands with one error text and
drops the socket; the connection itself stays usable.
-/

set_option autoImplicit false

namespace Fanout

/-- Closes the socket, if there is one; the next round connects again. -/
def Connection.close {Net Sock : Type} (transport : Transport Net Sock)
    (connection : Connection Sock) (network : Net) : Connection Sock × Net :=
  let network := match connection.link.socket? with
    | none => network
    | some socket => transport.hangUp network socket
  ({ connection with link := .closed }, network)

/-- Everything that a connection may touch when it is its turn. -/
structure Turn (Net Sock : Type) (Place : Type → Type := Link) where
  network : Net
  interests : Interests
  memory : MemoryStats
  ordinal : Nat
  connection : Connection Sock Place
  batch : Batch
  /-- The first rule of use that was broken. What the turn does behind that means nothing. -/
  breach : Option Misuse := none

namespace Turn

variable {Net Sock : Type} {Place : Type → Type} (transport : Transport Net Sock)

def withLink (turn : Turn Net Sock Place) (link : Place Sock) : Turn Net Sock Place :=
  { turn with connection := { turn.connection with link := link } }

def withSocket (turn : Turn Net Sock) (socket : Sock) : Turn Net Sock :=
  turn.withLink (turn.connection.link.withSocket socket)

def abortText (turn : Turn Net Sock Place) (cause : AbortCause) : String :=
  Text.truncate (cause.message turn.connection.endpoint) turn.connection.maxErrorLength

def broke (turn : Turn Net Sock Place) (rule : Misuse) : Turn Net Sock Place :=
  { turn with breach := turn.breach.or rule }

/-- Drops everything that the pair waits for. -/
def forget (turn : Turn Net Sock Place) : Turn Net Sock Place :=
  let forgotten := turn.interests.forget turn.ordinal
  { turn with
    interests := forgotten.toOption.getD turn.interests
    breach := turn.breach.or (Misuse.of? forgotten) }

/-- The network once the poller has let go of a socket, if it knew it. -/
def released (turn : Turn Net Sock Place) (socket : Sock) : Net :=
  if turn.interests.isRegistered turn.ordinal then (transport.deregister turn.network socket).2
  else turn.network

/-- Closes the socket and forgets what it was watched for. -/
def dropSocket (turn : Turn Net Sock) : Turn Net Sock :=
  match turn.connection.link.socket? with
  | none => turn
  | some socket =>
      { turn.forget with network := transport.hangUp (turn.released transport socket) socket }

/-- Fails the batch and drops the socket. A batch that was aborted before keeps its text and its
replies. -/
def abort (turn : Turn Net Sock) (cause : AbortCause) : Turn Net Sock :=
  if turn.connection.link.isAborted then turn
  else
    let batch :=
      if turn.batch.isAborted then turn.batch
      else turn.batch.failPending (turn.abortText cause)
    ({ turn with batch := batch }.dropSocket transport).withLink .aborted

/-- Asks to be told of an event, and gives up if the poller refuses. -/
def notify (turn : Turn Net Sock) (event : Readiness) : Turn Net Sock :=
  match turn.connection.link.socket? with
  | none => turn
  | some socket =>
      match turn.interests.notify turn.ordinal event transport.watch socket with
      | .error rule => turn.broke rule
      | .ok (refusal, interests, socket) =>
          let asked := { turn with interests := interests }.withSocket socket
          match refusal with
          | none => asked
          | some error => asked.abort transport (.eventRefused error)

def sendData (turn : Turn Net Sock) : Turn Net Sock :=
  match turn.connection.link with
  | .connected socket =>
      let (ended, buffer, socket) := sendPending transport turn.batch.writeBuffer socket
      let sent := { turn with batch := { turn.batch with writeBuffer := buffer } }.withSocket socket
      match ended with
      | .drained => sent
      | .blocked => sent.notify transport .writing
      | .failed error => sent.abort transport (.writeFailed error)
  | _ => turn

def connect (turn : Turn Net Sock) : Turn Net Sock :=
  let (dialing, network) := transport.dial turn.network turn.connection.endpoint
  let dialed := { turn with network := network }
  match dialing with
  | .unresolved => dialed.abort transport .unresolved
  | .refused error => dialed.abort transport (.connectFailed error)
  | .opened socket => (dialed.withLink (.connecting socket)).notify transport .writing

def finishConnect (turn : Turn Net Sock) : Turn Net Sock :=
  match turn.connection.link with
  | .connecting socket =>
      match transport.shake socket with
      | (.inProgress, socket) => (turn.withSocket socket).notify transport .writing
      | (.failed error, socket) => (turn.withSocket socket).abort transport (.connectFailed error)
      | (.established, socket) => (turn.withLink (.connected socket)).notify transport .reading
  | _ => turn

/-- Brings the connection as far as possible towards having sent the batch. -/
def writeData (turn : Turn Net Sock) : Turn Net Sock :=
  match turn.connection.link with
  | .closed => turn.connect transport
  | .connecting _ => (turn.finishConnect transport).sendData transport
  | .connected _ => turn.sendData transport
  | .aborted => turn

/-- What receiving starts with. -/
def intake (turn : Turn Net Sock Place) (socket : Sock) : Intake Sock :=
  Intake.checked
    { parser := turn.connection.parser
      batch := turn.batch
      memory := turn.memory
      socket := socket }

def withIntake (turn : Turn Net Sock) (intake : Intake Sock) : Turn Net Sock :=
  { turn with
    memory := intake.memory
    batch := intake.batch
    connection := { turn.connection with
      parser := intake.parser
      link := .connected intake.socket }
    breach := turn.breach.or intake.breach }

def readData (turn : Turn Net Sock) : Turn Net Sock :=
  match turn.connection.link with
  | .connected socket =>
      let (ended, intake) := (turn.intake socket).run transport
      let received := turn.withIntake intake
      match ended with
      | .answered => received
      | .blocked => received.notify transport .reading
      | .failed cause => received.abort transport cause
  | _ => turn

/-- The connection as it enters a round: a failure is over, and no reply is half read. -/
def prepare (turn : Turn Net Sock) : Turn Net Sock :=
  let link := if turn.connection.link.isAborted then .closed else turn.connection.link
  { turn with
    connection := { turn.connection with link := link, parser := {} }
    batch := turn.batch.startSending }

def start (turn : Turn Net Sock) : Turn Net Sock :=
  let begun := turn.prepare.writeData transport
  match begun.connection.link with
  | .connected _ => begun.notify transport .reading
  | _ => begun

/-- A turn because of events. An error or a timeout ends the service at once. -/
def handle (turn : Turn Net Sock) (event : Readiness) : Turn Net Sock :=
  if turn.connection.link.isAborted then turn
  else if event.contains .failing then turn.abort transport .event
  else if event.contains .timedOut then
    turn.abort transport
      (if turn.connection.link.isConnecting then .connectTimeout else .transferTimeout)
  else
    let written := if event.contains .writing then turn.writeData transport else turn
    if event.contains .reading then written.readData transport else written

/-- The last turn of a round: nothing is waited for any more. -/
def finish (turn : Turn Net Sock) : Turn Net Sock :=
  match turn.connection.link.socket? with
  | none => turn
  | some _ => turn.forget

/-- The last turn, with the poller that lets go of the socket. -/
def leave (turn : Turn Net Sock) : Turn Net Sock :=
  match turn.connection.link.socket? with
  | none => turn
  | some socket => { turn.finish with network := turn.released transport socket }

end Turn

/-- What is asked of connections, in whatever way they keep their sockets. -/
class Serving (Place : Type → Type) where
  /-- The place of a connection that was not used yet. -/
  closed {Sock : Type} : Place Sock
  socket? {Sock : Type} : Place Sock → Option Sock
  start {Net Sock : Type} : Transport Net Sock → Turn Net Sock Place → Turn Net Sock Place
  handle {Net Sock : Type} : Transport Net Sock → Turn Net Sock Place → Readiness →
    Turn Net Sock Place
  leave {Net Sock : Type} : Transport Net Sock → Turn Net Sock Place → Turn Net Sock Place
  close {Net Sock : Type} : Transport Net Sock → Connection Sock Place → Net →
    Connection Sock Place × Net

instance : Serving Link where
  closed := .closed
  socket? := Link.socket?
  start := Turn.start
  handle := Turn.handle
  leave := Turn.leave
  close := Connection.close

end Fanout
