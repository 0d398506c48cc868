import Fanout.CommandLine.Options
import Fanout.Round
import Fanout.Text.Lossy

/-!
The probe: sends one command to every server in one round and prints the replies of each.
-/

set_option autoImplicit false

namespace Fanout.CommandLine

structure Result where
  exitCode : UInt32 := 0
  stdout : String := ""
  stderr : String := ""
  deriving DecidableEq, Repr

def helpText : String := "
redis-fanout - send one command to many Redis servers at once

USAGE:
    redis-fanout [OPTIONS] <COMMAND> [ARGS...]

OPTIONS:
    -s, --server <ADDR>    Server to query, host[:port]; repeatable (default: 127.0.0.1:6379)
    -t, --timeout <MS>     Deadline for the whole round in milliseconds (default: 1000)
    -v, --version          Print version information
    -h, --help             Print this help message

EXAMPLES:
    redis-fanout PING
    redis-fanout -s cache1 -s cache2:6380 GET user:101
    redis-fanout -t 50 -s 10.0.0.7 -- MGET a b c

LOGGING:
    RUST_LOG=redis_fanout=trace redis-fanout PING

"

def versionLine : String := "redis-fanout version " ++ Fanout.version ++ "\n"

/-- A span of milliseconds in the largest unit that gives a whole part. -/
def renderSpan (millis : Nat) : String :=
  let seconds := millis / 1000
  let part := millis % 1000
  if millis = 0 then "0ns"
  else if seconds = 0 then s!"{part}ms"
  else if part = 0 then s!"{seconds}s"
  else
    let digits := toString (1000 + part)
    let kept := (digits.toList.drop 1).reverse.dropWhile (· = '0')
    let fraction := String.ofList kept.reverse
    s!"{seconds}.{fraction}s"

def renderValue (entry : Entry) : String :=
  match entry.kind with
  | .multibulk =>
      let count := entry.length
      s!"({count} items)"
  | .bulkNil => "(nil)"
  | .multibulkNil => "(nil)"
  | _ => (entry.data.map fun data => Text.quoted (Text.decodeLossy data)).getD ""

def renderEntry (entry : Entry) : String :=
  String.join (List.replicate entry.depth "  ") ++ entry.kind.name ++ " " ++
    renderValue entry ++ "\n"

/-- A failure on the way out, with what caused it. -/
def renderError (text : String) (causes : List String) : String :=
  let listed := causes.map fun cause => s!"    {cause}\n"
  if causes.isEmpty then s!"Error: {text}\n"
  else s!"Error: {text}\n\nCaused by:\n" ++ String.join listed

def fail (text : String) (causes : List String) (stdout : String) : Result :=
  { exitCode := 1, stdout := stdout, stderr := renderError text causes }

variable {Net Sock : Type} (transport : Transport Net Sock)

/-- Connections to all servers, or the first text that names none. -/
def connectAll (engine : Engine) : List String → Except InvalidAddress (List (Connection Sock))
  | [] => .ok []
  | server :: servers => do
      let connection ← (engine.connection server).1
      let others ← connectAll engine servers
      return connection :: others

def writeAll (arguments : List ByteArray) (engine : Engine) :
    List (Connection Sock) → Except Failure (List (Pair Sock) × Engine)
  | [] => .ok ([], engine)
  | connection :: others => do
      let (batch, engine) := engine.batch
      match engine.onBatch batch (Batch.writeCommand arguments) with
      | (.error failure, _, _) => .error failure
      | (.ok _, batch, engine) =>
          let (pairs, engine) ← writeAll arguments engine others
          return (⟨connection, batch⟩ :: pairs, engine)

def addAll (round : Round Net Sock) :
    List (Pair Sock) → Except RoundFull (Round Net Sock)
  | [] => .ok round
  | pair :: pairs =>
      match round.add pair with
      | (.error full, _) => .error full
      | (.ok _, round) => addAll round pairs

def renderPair (pair : Pair Sock) : String :=
  let entries := (pair.batch.entries.toOption).getD []
  pair.connection.endpoint.render ++ "\n" ++ String.join (entries.map renderEntry)

/-- Sends the command to all servers. The network is returned for those who watch it. -/
def probe (options : Options) (network : Net) : Result × Round Net Sock :=
  let engine := Engine.new {}
  let idle : Round Net Sock := Round.new engine network
  match connectAll engine options.servers with
  | .error invalid =>
      (fail ("bad server address " ++ invalid.text) [invalid.message] "", idle)
  | .ok connections =>
      let arguments := options.command.map String.toUTF8
      match writeAll arguments engine connections with
      | .error failure => (fail (failure.message.getD "") [] "", idle)
      | .ok (pairs, engine) =>
          match (Round.open? engine network (transport.poller network)).1 with
          | .error failure => (fail failure.message [failure.error.message] "", idle)
          | .ok round =>
              match addAll round pairs with
              | .error full => (fail full.message [] "", idle)
              | .ok round =>
                  let (outcome, round) := round.execute transport options.timeout
                  let stdout := String.join (round.pairs.map renderPair)
                  let result : Result := match outcome with
                    | .completed => { stdout := stdout }
                    | .timedOut =>
                        fail ("round timed out after " ++ renderSpan options.timeout) [] stdout
                    | .failed text => fail text [] stdout
                  (result, round)

def run (words : List String) (network : Net) : Result × Round Net Sock :=
  let idle : Round Net Sock := Round.new (Engine.new {}) network
  match read words with
  | .help => ({ stdout := helpText }, idle)
  | .version => ({ stdout := versionLine }, idle)
  | .rejected error =>
      ({ exitCode := 1
         stdout := if error.showsHelp then helpText else ""
         stderr := error.message ++ "\n" }, idle)
  | .run options => probe transport options network

end Fanout.CommandLine
