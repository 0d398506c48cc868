import Fanout.Connection.Turn
import Fanout.Engine

/-!
A round: many pairs of a connection and a batch, one poller and one deadline. Every pair gets its
first turn, then turns as events come in, until nothing is pending or the deadline has passed; what
is pending then is aborted. The poller lets at least a nanosecond pass, so the round ends.
-/

set_option autoImplicit false

namespace Fanout

structure Pair (Sock : Type) (Place : Type → Type := Link) where
  connection : Connection Sock Place
  batch : Batch

structure RoundFull where
  largest : Nat
  deriving DecidableEq, Repr

def RoundFull.message (full : RoundFull) : String :=
  let largest := full.largest
  s!"Executor is full, max = {largest}"

/-- The poller of a round could not be made. -/
structure NoPoller where
  error : IoError
  deriving DecidableEq, Repr

def NoPoller.message (failure : NoPoller) : String :=
  "could not create poller: " ++ failure.error.message

inductive Outcome where
  | completed
  | timedOut
  | failed (text : String)
  deriving DecidableEq, Repr

def Outcome.isCompleted (outcome : Outcome) : Bool := outcome = .completed

structure Round (Net Sock : Type) (Place : Type → Type := Link) where
  engine : Engine
  network : Net
  pairs : List (Pair Sock Place) := []
  interests : Interests := {}
  /-- The first rule of use that was broken. What the round does behind that means nothing. -/
  breach : Option Misuse := none

namespace Round

variable {Net Sock : Type} {Place : Type → Type} (transport : Transport Net Sock)

def new (engine : Engine) (network : Net) : Round Net Sock Place :=
  { engine := engine, network := network }

/-- An empty round, if there is a poller for it; that there is none is remembered. -/
def open? (engine : Engine) (network : Net) (poller : Except IoError Unit) :
    Except NoPoller (Round Net Sock Place) × Engine :=
  match poller with
  | .ok () => (.ok (new engine network), engine)
  | .error error => (.error ⟨error⟩, engine.setLastError (NoPoller.message ⟨error⟩))

/-- Adds a pair, unless the round is full; that is remembered as the latest error. -/
def add (round : Round Net Sock Place) (pair : Pair Sock Place) :
    Except RoundFull Unit × Round Net Sock Place :=
  let largest := round.engine.config.maxPairs
  if largest ≤ round.pairs.length then
    let full : RoundFull := ⟨largest⟩
    (.error full, { round with engine := round.engine.setLastError full.message })
  else
    (.ok (), { round with
      pairs := round.pairs ++ [pair]
      interests := round.interests.addSlot })

def anyPending (round : Round Net Sock Place) : Bool :=
  round.pairs.any fun pair => pair.batch.hasPending

def turn (round : Round Net Sock Place) (ordinal : Nat)
    (act : Turn Net Sock Place → Turn Net Sock Place) : Round Net Sock Place :=
  match round.pairs[ordinal]? with
  | none => round
  | some pair =>
      let after := act
        { network := round.network
          interests := round.interests
          memory := round.engine.memory
          ordinal := ordinal
          connection := pair.connection
          batch := pair.batch
          breach := round.breach }
      { engine := { round.engine with memory := after.memory }
        network := after.network
        interests := after.interests
        pairs := round.pairs.set ordinal ⟨after.connection, after.batch⟩
        breach := after.breach }

def isPending (round : Round Net Sock Place) (ordinal : Nat) : Bool :=
  (round.pairs[ordinal]?.map fun pair => pair.batch.hasPending).getD false

def turnIfPending (round : Round Net Sock Place) (ordinal : Nat)
    (act : Turn Net Sock Place → Turn Net Sock Place) : Round Net Sock Place :=
  if round.isPending ordinal then round.turn ordinal act else round

def eachPair (round : Round Net Sock Place)
    (act : Round Net Sock Place → Nat → Round Net Sock Place) : Round Net Sock Place :=
  (List.range round.pairs.length).foldl act round

variable [Serving Place]

def startAll (round : Round Net Sock Place) : Round Net Sock Place :=
  round.eachPair fun round ordinal => round.turnIfPending ordinal (Serving.start transport)

/-- Delivers an event that came from the poller, as far as the pair wanted it. -/
def deliver (round : Round Net Sock Place) (event : Nat × Readiness) : Round Net Sock Place :=
  let (hit, interests) := round.interests.consume event.1 event.2
  let consumed := { round with interests := interests }
  if hit.isEmpty then consumed
  else consumed.turnIfPending event.1 fun turn => Serving.handle transport turn hit

def deliverAll (round : Round Net Sock Place) (events : List (Nat × Readiness)) :
    Round Net Sock Place :=
  events.foldl (deliver transport) round

/-- Delivers an event to every pair that still waits for replies, whatever it wanted. -/
def dispatchAll (round : Round Net Sock Place) (event : Readiness) : Round Net Sock Place :=
  round.eachPair fun round ordinal =>
    let consumed := { round with interests := (round.interests.takeAll ordinal).2 }
    consumed.turnIfPending ordinal fun turn => Serving.handle transport turn event

def watched (round : Round Net Sock Place) : List (Watched Sock) :=
  (List.range round.pairs.length).filterMap fun ordinal => do
    let pair ← round.pairs[ordinal]?
    let slot ← round.interests.slots[ordinal]?
    let socket ← Serving.socket? pair.connection.link
    if slot.registered then some ⟨ordinal, socket, slot.wanted⟩ else none

/-- Waits and works until the round is over; `remaining` nanoseconds are left to the deadline. -/
def loop (round : Round Net Sock Place) (remaining : Nat) : Outcome × Round Net Sock Place :=
  if round.interests.outstanding = 0 || !round.anyPending then (.completed, round)
  else if _expired : remaining = 0 then (.timedOut, round.dispatchAll transport .timedOut)
  else
    match transport.poll round.network round.watched remaining with
    | (.failed error, _, network) =>
        let failed := { round with network := network }.dispatchAll transport .failing
        (.failed ("Execute poll error: " ++ error.message), failed)
    | (.interrupted, passed, network) =>
        loop { round with network := network } (remaining - (passed + 1))
    | (.ready events, passed, network) =>
        loop ({ round with network := network }.deliverAll transport events)
          (remaining - (passed + 1))
termination_by remaining

def finishAll (round : Round Net Sock Place) : Round Net Sock Place :=
  round.eachPair fun round ordinal => round.turn ordinal (Serving.leave transport)

/-- Remembers how the round ended, if it did not end well. -/
def record (round : Round Net Sock Place) (outcome : Outcome) : Round Net Sock Place :=
  match outcome with
  | .completed => round
  | .timedOut => { round with engine := round.engine.setLastError "Execute timeout" }
  | .failed text => { round with engine := round.engine.setLastError text }

/-- The nanoseconds until the deadline. Where the clock cannot tell the deadline it is a year
ahead. -/
def allowed (round : Round Net Sock Place) (timeout : Duration) : Nat :=
  if transport.clock round.network + timeout.nanos ≤ latestInstant then timeout.nanos
  else (Duration.ofSeconds (365 * 24 * 60 * 60)).nanos

/-- Runs all pairs until every batch is answered or the time is up. -/
def execute (round : Round Net Sock Place) (timeout : Duration) : Outcome × Round Net Sock Place :=
  let ended := (round.startAll transport).loop transport (round.allowed transport timeout)
  (ended.1, (ended.2.finishAll transport).record ended.1)

end Round

end Fanout
