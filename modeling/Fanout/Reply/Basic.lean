import Fanout.Failure

/-!
Replies. A reply does not hold its bytes: it says where they are, in the receive buffer or in the
text that a batch was aborted with. An array reply owns its elements, which are never arrays
themselves.
-/

set_option autoImplicit false

namespace Fanout

inductive ReplyKind where
  | error
  | none
  | ok
  | bulkNil
  | bulk
  | multibulkNil
  | multibulk
  | integer
  deriving DecidableEq, Repr

namespace ReplyKind

def all : List ReplyKind :=
  [.error, .none, .ok, .bulkNil, .bulk, .multibulkNil, .multibulk, .integer]

def code : ReplyKind → Int
  | .error => -1
  | .none => 0
  | .ok => 1
  | .bulkNil => 2
  | .bulk => 3
  | .multibulkNil => 4
  | .multibulk => 5
  | .integer => 6

def ofCode? (code : Int) : Option ReplyKind := all.find? fun kind => kind.code = code

def name : ReplyKind → String
  | .error => "error"
  | .none => "none"
  | .ok => "ok"
  | .bulkNil => "bulk-nil"
  | .bulk => "bulk"
  | .multibulkNil => "multibulk-nil"
  | .multibulk => "multibulk"
  | .integer => "integer"

/-- Whether the value of such a reply is a range of bytes. -/
def hasData : ReplyKind → Bool
  | .ok | .error | .bulk | .integer => true
  | _ => false

end ReplyKind

inductive ReplySource where
  | nowhere
  | received
  | abortText
  deriving DecidableEq, Repr

namespace ReplySource

def name : ReplySource → String
  | .nowhere => "None"
  | .received => "Read"
  | .abortText => "Abort"

end ReplySource

/-- The three replies that are written as one line. -/
inductive LineKind where
  | ok
  | error
  | integer
  deriving DecidableEq, Repr

def LineKind.replyKind : LineKind → ReplyKind
  | .ok => .ok
  | .error => .error
  | .integer => .integer

inductive Element where
  | bulk (offset length : Nat)
  | nil
  deriving DecidableEq, Repr

inductive Reply where
  | line (kind : LineKind) (offset length : Nat)
  | single (element : Element)
  | multibulkNil
  /-- An array with the number of elements that its header announced. -/
  | multibulk (count : Nat) (elements : Array Element)
  /-- An error reply that stands for the text a batch was aborted with. -/
  | aborted (length : Nat)
  deriving DecidableEq, Repr

namespace Reply

def kind : Reply → ReplyKind
  | .line kind _ _ => kind.replyKind
  | .single (.bulk _ _) => .bulk
  | .single .nil => .bulkNil
  | .multibulkNil => .multibulkNil
  | .multibulk _ _ => .multibulk
  | .aborted _ => .error

def source : Reply → ReplySource
  | .line _ _ _ => .received
  | .single (.bulk _ _) => .received
  | .aborted _ => .abortText
  | _ => .nowhere

def offset : Reply → Nat
  | .line _ offset _ => offset
  | .single (.bulk offset _) => offset
  | _ => 0

/-- The length of the value in bytes; for an array, its number of elements. -/
def length : Reply → Nat
  | .line _ _ length => length
  | .single (.bulk _ length) => length
  | .multibulk count _ => count
  | .aborted length => length
  | _ => 0

def elements : Reply → Array Element
  | .multibulk _ elements => elements
  | _ => #[]

def isEmpty (reply : Reply) : Bool := reply.length = 0

def isError (reply : Reply) : Bool := reply.kind = .error

end Reply

end Fanout
