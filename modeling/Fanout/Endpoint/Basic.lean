import Fanout.Decimal
import Fanout.Endpoint.Address
import Fanout.Text.Blank
import Fanout.Text.Quoted

/-!
Server endpoints: a host and a port, read from `host`, `host:port`, `[host]` or `[host]:port`.
A text with more than one colon and no brackets is all host.
-/

set_option autoImplicit false

namespace Fanout

structure InvalidAddress where
  text : String
  deriving DecidableEq, Repr

def InvalidAddress.message (error : InvalidAddress) : String :=
  "invalid address: " ++ Text.quoted error.text

structure Endpoint where
  host : String
  port : UInt16
  deriving DecidableEq, Repr

namespace Endpoint

/-- The text before the first `separator` and the text behind it. -/
def splitAtFirst (separator : Char) : List Char → Option (List Char × List Char)
  | [] => none
  | char :: text =>
      if char = separator then some ([], text)
      else (splitAtFirst separator text).map fun (before, behind) => (char :: before, behind)

/-- Takes a text apart into the host and, where there is one, the text of the port. -/
def splitHost : List Char → Option (List Char × Option (List Char))
  | '[' :: text =>
      match splitAtFirst ']' text with
      | none => none
      | some (host, []) => some (host, none)
      | some (host, ':' :: port) => some (host, some port)
      | some _ => none
  | text =>
      match splitAtFirst ':' text with
      | none => some (text, none)
      | some (host, port) =>
          if port.contains ':' then some (text, none) else some (host, some port)

def readPort (text : List Char) : Option UInt16 :=
  let number := Decimal.readNatural 65535 (String.ofList text).toUTF8.data.toList
  (number.filter (· ≠ 0)).map UInt16.ofNat

def isHost (text : List Char) : Bool := !text.isEmpty && !text.any Text.isBlank

def parse? (text : List Char) (fallback : UInt16) : Option Endpoint := do
  let (host, port) ← splitHost (Text.trimBlanks text)
  guard (isHost host)
  let port ← match port with
    | none => some fallback
    | some text => readPort text
  return ⟨String.ofList host, port⟩

/-- Reads an endpoint; a text without a port gets the one given. -/
def parse (text : String) (fallback : UInt16) : Except InvalidAddress Endpoint :=
  match parse? text.toList fallback with
  | some endpoint => .ok endpoint
  | none => .error ⟨text⟩

def render (endpoint : Endpoint) : String :=
  let host := endpoint.host
  let port := endpoint.port.toNat
  if host.toList.contains ':' then s!"[{host}]:{port}" else s!"{host}:{port}"

def address? (endpoint : Endpoint) : Option Address := Address.read endpoint.host

end Endpoint

end Fanout
