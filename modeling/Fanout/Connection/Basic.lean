import Fanout.Endpoint.Basic
import Fanout.Reply.Parser

/-!
A connection to one server. It outlives the rounds: an open socket is kept for the next round, and
after a failure the next round connects again.
-/

set_option autoImplicit false

namespace Fanout

/-- Where a connection is in its life. It has a socket exactly while one is being set up or in
use. -/
inductive Link (Sock : Type) where
  | closed
  | connecting (socket : Sock)
  | connected (socket : Sock)
  | aborted

namespace Link

variable {Sock : Type}

def name : Link Sock → String
  | .closed => "closed"
  | .connecting _ => "connecting"
  | .connected _ => "connected"
  | .aborted => "aborted"

def socket? : Link Sock → Option Sock
  | .connecting socket => some socket
  | .connected socket => some socket
  | _ => none

def isAborted : Link Sock → Bool
  | .aborted => true
  | _ => false

def isConnecting : Link Sock → Bool
  | .connecting _ => true
  | _ => false

/-- The same place in life, with the state the socket has now. -/
def withSocket (socket : Sock) : Link Sock → Link Sock
  | .connecting _ => .connecting socket
  | .connected _ => .connected socket
  | link => link

end Link

/-- A connection, in one of the ways to keep its socket and its place in life. -/
structure Connection (Sock : Type) (Place : Type → Type := Link) where
  endpoint : Endpoint
  link : Place Sock
  parser : Parser
  maxErrorLength : Nat

namespace Connection

variable {Sock : Type}

/-- A connection that was not used yet. Nothing is sent before its first round. -/
def new (endpoint : Endpoint) (maxErrorLength : Nat) : Connection Sock :=
  { endpoint := endpoint, link := .closed, parser := {}, maxErrorLength := maxErrorLength }

end Connection

/-- Why a connection gave up on the batch it was serving. -/
inductive AbortCause where
  | event
  | eventRefused (error : IoError)
  | connectTimeout
  | transferTimeout
  | unresolved
  | connectFailed (error : IoError)
  | writeFailed (error : IoError)
  | readFailed (failure : Failure)
  | readEof
  | malformedReply
  deriving DecidableEq, Repr

namespace AbortCause

def detail : AbortCause → String
  | .event => "event error"
  | .eventRefused error => "event error " ++ error.message
  | .connectTimeout => "connect timeout"
  | .transferTimeout => "read/write timeout"
  | .unresolved => "could not resolve address"
  | .connectFailed error => "connect error " ++ error.message
  | .writeFailed error => "write error " ++ error.message
  | .readFailed failure => "read error " ++ failure.message.getD ""
  | .readEof => "read eof"
  | .malformedReply => "result parse error"

/-- The text of the error replies, before it is cut to its largest length. -/
def message (cause : AbortCause) (endpoint : Endpoint) : String :=
  let detail := cause.detail
  let address := endpoint.render
  s!"Connection error {detail} [addr: {address}]"

end AbortCause

end Fanout
