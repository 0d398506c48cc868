import Fanout.Decimal

/-!
How a command is written for a server: the number of its arguments, then every argument behind its
own length. Lengths make the form safe for any bytes.
-/

set_option autoImplicit false

namespace Fanout.Command

def crlf : ByteArray := ⟨#[13, 10]⟩

/-- A lead byte with a number, on a line of its own. -/
def header (lead : UInt8) (number : Nat) : ByteArray :=
  (lead :: Decimal.numeral number).toByteArray ++ crlf

def countHeader (arguments : List ByteArray) : ByteArray := header 42 arguments.length

def lengthHeader (argument : ByteArray) : ByteArray := header 36 argument.size

def encodeArgument (argument : ByteArray) : ByteArray :=
  lengthHeader argument ++ argument ++ crlf

def encode (arguments : List ByteArray) : ByteArray :=
  arguments.foldl (fun bytes argument => bytes ++ encodeArgument argument) (countHeader arguments)

def encodedArgumentSize (argument : ByteArray) : Nat :=
  1 + Decimal.width argument.size + 2 + argument.size + 2

/-- The size of the encoding, known before a byte is written. -/
def encodedSize (arguments : List ByteArray) : Nat :=
  arguments.foldl (fun size argument => size + encodedArgumentSize argument)
    (1 + Decimal.width arguments.length + 2)

end Fanout.Command
