import Fanout.Config
import Fanout.Decimal

/-!
Reading the command line. Options come first; the first word that is no option, or everything
behind `--`, is the command, whatever its words look like.
-/

set_option autoImplicit false

namespace Fanout.CommandLine

structure Options where
  servers : List String := []
  /-- The deadline of the round in milliseconds. -/
  timeout : Nat := 1000
  command : List String := []
  deriving DecidableEq, Repr

inductive UsageError where
  | missingValue (option : String)
  | invalidTimeout
  | unknownArgument (argument : String)
  | noCommand
  deriving DecidableEq, Repr

namespace UsageError

def message : UsageError → String
  | .missingValue option => s!"Error: {option} requires a value"
  | .invalidTimeout => "Error: invalid timeout"
  | .unknownArgument argument => s!"Unknown argument: {argument}"
  | .noCommand => "Error: no command given"

def showsHelp : UsageError → Bool
  | .unknownArgument _ => true
  | .noCommand => true
  | _ => false

end UsageError

inductive Request where
  | help
  | version
  | run (options : Options)
  | rejected (error : UsageError)
  deriving DecidableEq, Repr

def readTimeout (word : String) : Option Nat :=
  Decimal.readNatural largestWord word.toUTF8.data.toList

def defaultServer : String :=
  let port := Fanout.defaultPort.toNat
  s!"127.0.0.1:{port}"

/-- Checks what was read, and puts the server in that is asked when none was named. -/
def complete (options : Options) : Request :=
  if options.command.isEmpty then .rejected .noCommand
  else if options.servers.isEmpty then .run { options with servers := [defaultServer] }
  else .run options

def startsWithDash (word : String) : Bool := word.toList.head? = some '-'

/-- Reads the words behind those that the options stand for. -/
def readFrom (options : Options) : List String → Request
  | [] => complete options
  | word :: words =>
      if word = "--server" || word = "-s" then
        match words with
        | [] => .rejected (.missingValue "--server")
        | server :: words =>
            readFrom { options with servers := options.servers ++ [server] } words
      else if word = "--timeout" || word = "-t" then
        match words with
        | [] => .rejected (.missingValue "--timeout")
        | value :: words =>
            match readTimeout value with
            | none => .rejected .invalidTimeout
            | some timeout => readFrom { options with timeout := timeout } words
      else if word = "--help" || word = "-h" then .help
      else if word = "--version" || word = "-v" then .version
      else if word = "--" then complete { options with command := words }
      else if startsWithDash word then .rejected (.unknownArgument word)
      else complete { options with command := word :: words }

def read (words : List String) : Request := readFrom {} words

end Fanout.CommandLine
