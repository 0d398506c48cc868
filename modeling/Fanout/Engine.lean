import Fanout.Batch.Traversal
import Fanout.Connection.Basic
import Fanout.Text.Truncation

/-!
The engine: the settings, the memory counters, the text of the latest error and a bounded pool of
batches to be used again.
-/

set_option autoImplicit false

namespace Fanout

structure Engine where
  config : Config := {}
  memory : MemoryStats := {}
  lastError : Option String := none
  pool : List Batch := []

namespace Engine

def new (config : Config) : Engine := { config := config }

def newBatch (engine : Engine) : Batch × Engine :=
  let made := Batch.allocate engine.config engine.memory
  (made.item, { engine with memory := made.memory })

/-- An empty batch, one used before if there is one. -/
def batch (engine : Engine) : Batch × Engine :=
  match engine.pool with
  | batch :: pool => (batch, { engine with pool := pool })
  | [] => engine.newBatch

def discard (engine : Engine) (batch : Batch) : Engine :=
  { engine with memory := Batch.release ⟨batch, engine.memory⟩ }

/-- Empties a batch and keeps it for later, unless the pool is full. -/
def recycle (engine : Engine) (batch : Batch) : Engine :=
  let emptied := Batch.reset ⟨batch, engine.memory⟩
  let engine := { engine with memory := emptied.memory }
  if engine.pool.length < engine.config.batchPoolSize then
    { engine with pool := emptied.item :: engine.pool }
  else engine.discard emptied.item

def setLastError (engine : Engine) (text : String) : Engine :=
  { engine with lastError := some (Text.truncate text engine.config.maxErrorLength) }

/-- A connection to the endpoint that a text names. A text that names none is remembered. -/
def connection {Sock : Type} (engine : Engine) (address : String) :
    Except InvalidAddress (Connection Sock) × Engine :=
  match Endpoint.parse address engine.config.defaultPort with
  | .ok endpoint => (.ok (Connection.new endpoint engine.config.maxErrorLength), engine)
  | .error error => (.error error, engine.setLastError error.message)

def onBatch {α : Type} (engine : Engine) (batch : Batch) (operation : Batch.Operation α) :
    Except Failure α × Batch × Engine :=
  match operation ⟨batch, engine.memory⟩ with
  | .ok value after => (.ok value, after.item, { engine with memory := after.memory })
  | .error failure after => (.error failure, after.item, { engine with memory := after.memory })

def resetBatch (engine : Engine) (batch : Batch) : Batch × Engine :=
  let emptied := Batch.reset ⟨batch, engine.memory⟩
  (emptied.item, { engine with memory := emptied.memory })

/-- Lets go of the pool. The number is what batches outside of it still hold. -/
def shutdown (engine : Engine) : UInt64 × Engine :=
  let emptied := { engine.pool.foldl discard engine with pool := [] }
  (emptied.memory.allocated, emptied)

end Engine

end Fanout
