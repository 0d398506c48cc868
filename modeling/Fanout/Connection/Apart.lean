import Fanout.Connection.Turn

/-!
A connection that keeps its socket and its place in life apart, so that each of them is set on its
own and nothing but the order of the assignments keeps them in step. Its turns find a socket or
stop; a socket that is overwritten is closed.
-/

set_option autoImplicit false

namespace Fanout

inductive LinkState where
  | closed
  | connecting
  | connected
  | aborted
  deriving DecidableEq, Repr

structure Apart (Sock : Type) where
  stream : Option Sock := none
  state : LinkState := .closed

namespace Apart

variable {Net Sock : Type} (transport : Transport Net Sock) (turn : Turn Net Sock Apart)

def setStream (stream : Option Sock) : Turn Net Sock Apart :=
  turn.withLink { turn.connection.link with stream := stream }

def setState (state : LinkState) : Turn Net Sock Apart :=
  turn.withLink { turn.connection.link with state := state }

/-- Closes the socket, if there is one. -/
def dropStream : Turn Net Sock Apart :=
  match turn.connection.link.stream with
  | none => turn
  | some socket =>
      let taken := setStream turn none
      { taken.forget with network := transport.hangUp (taken.released transport socket) socket }

def abort (cause : AbortCause) : Turn Net Sock Apart :=
  if turn.connection.link.state = .aborted then turn
  else
    let batch :=
      if turn.batch.isAborted then turn.batch
      else turn.batch.failPending (turn.abortText cause)
    setState (dropStream transport { turn with batch := batch }) .aborted

def notify (event : Readiness) : Turn Net Sock Apart :=
  match turn.connection.link.stream with
  | none => turn
  | some socket =>
      match turn.interests.notify turn.ordinal event transport.watch socket with
      | .error rule => turn.broke rule
      | .ok (refusal, interests, socket) =>
          let asked := setStream { turn with interests := interests } (some socket)
          match refusal with
          | none => asked
          | some error => abort transport asked (.eventRefused error)

/-- Puts a new socket in the place of the one there was. -/
def replaceStream (socket : Sock) : Turn Net Sock Apart :=
  let network := match turn.connection.link.stream with
    | none => turn.network
    | some old => transport.hangUp turn.network old
  setStream { turn with network := network } (some socket)

/-- Begins to connect. The answer says whether the connection can be written to now. -/
def connect : Bool × Turn Net Sock Apart :=
  let (dialing, network) := transport.dial turn.network turn.connection.endpoint
  let dialed := { turn with network := network }
  match dialing with
  | .unresolved => (false, abort transport dialed .unresolved)
  | .refused error => (false, abort transport dialed (.connectFailed error))
  | .opened socket =>
      let opened := setState (replaceStream transport dialed socket) .connecting
      (false, notify transport opened .writing)

def finishConnect : Bool × Turn Net Sock Apart :=
  match turn.connection.link.stream with
  | none => (false, turn)
  | some socket =>
      match transport.shake socket with
      | (.failed error, socket) =>
          (false, abort transport (setStream turn (some socket)) (.connectFailed error))
      | (.inProgress, socket) => (false, notify transport (setStream turn (some socket)) .writing)
      | (.established, socket) =>
          let shaken := setState (setStream turn (some socket)) .connected
          let asked := notify transport shaken .reading
          (asked.connection.link.state = .connected, asked)

def sendData : Turn Net Sock Apart :=
  match turn.connection.link.stream with
  | none => turn
  | some socket =>
      let (ended, buffer, socket) := sendPending transport turn.batch.writeBuffer socket
      let sent := setStream { turn with batch := { turn.batch with writeBuffer := buffer } }
        (some socket)
      match ended with
      | .drained => sent
      | .blocked => notify transport sent .writing
      | .failed error => abort transport sent (.writeFailed error)

def writeData : Turn Net Sock Apart :=
  let (going, dialed) :=
    if turn.connection.link.state = .closed then connect transport turn else (true, turn)
  if !going then dialed
  else
    let (going, shaken) :=
      if dialed.connection.link.state = .connecting then finishConnect transport dialed
      else (true, dialed)
    if !going then shaken
    else if shaken.connection.link.state ≠ .connected then shaken
    else sendData transport shaken

/-- Takes the replies that were received already. There is nobody to ask for more. -/
def takeReplies (parser : Parser) (batch : Batch) : Option AbortCause × Parser × Batch :=
  if _pending : batch.pending = 0 then (none, parser, batch)
  else
    match parser.run batch.readBuffer.filled with
    | (parser, .complete reply) => takeReplies parser (batch.answer reply)
    | (parser, .incomplete) => (none, parser, batch)
    | (parser, .malformed _) => (some .malformedReply, parser, batch)
termination_by batch.pending
decreasing_by
  simp only [Batch.answer]
  omega

def readData : Turn Net Sock Apart :=
  if turn.connection.link.state ≠ .connected then turn
  else
    match turn.connection.link.stream with
    | some socket =>
        let (ended, intake) := (turn.intake socket).run transport
        let received := setStream { turn with
          memory := intake.memory
          batch := intake.batch
          connection := { turn.connection with parser := intake.parser }
          breach := turn.breach.or intake.breach } (some intake.socket)
        match ended with
        | .answered => received
        | .blocked => notify transport received .reading
        | .failed cause => abort transport received cause
    | none =>
        let (cause?, parser, batch) := takeReplies turn.connection.parser turn.batch
        let taken := { turn with
          batch := batch
          connection := { turn.connection with parser := parser }
          breach := turn.breach.or (Intake.rejected turn.connection.parser turn.batch) }
        match cause? with
        | none => taken
        | some cause => abort transport taken cause

def prepare : Turn Net Sock Apart :=
  let begun := if turn.connection.link.state = .aborted then setState turn .closed else turn
  { begun with
    connection := { begun.connection with parser := {} }
    batch := begun.batch.startSending }

def start : Turn Net Sock Apart :=
  let begun := writeData transport (prepare turn)
  if begun.connection.link.state = .connected then notify transport begun .reading else begun

def handle (event : Readiness) : Turn Net Sock Apart :=
  if turn.connection.link.state = .aborted then turn
  else if event.contains .failing then abort transport turn .event
  else if event.contains .timedOut then
    abort transport turn
      (if turn.connection.link.state = .connecting then .connectTimeout else .transferTimeout)
  else
    let written := if event.contains .writing then writeData transport turn else turn
    if event.contains .reading then readData transport written else written

def leave : Turn Net Sock Apart :=
  match turn.connection.link.stream with
  | none => turn
  | some socket => { turn.forget with network := turn.released transport socket }

def close (connection : Connection Sock Apart) (network : Net) : Connection Sock Apart × Net :=
  let network := match connection.link.stream with
    | none => network
    | some socket => transport.hangUp network socket
  ({ connection with link := { stream := none, state := .closed } }, network)

end Apart

instance : Serving Apart where
  closed := {}
  socket? := Apart.stream
  start := Apart.start
  handle := Apart.handle
  leave := Apart.leave
  close := Apart.close

end Fanout
