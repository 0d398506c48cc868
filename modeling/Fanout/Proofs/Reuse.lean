import Fanout.Proofs.Answers
import Fanout.Proofs.Delivery
import Fanout.Proofs.Sending

/-!
A connection in one round after another. It keeps its socket only over a round in which every
command was answered, and then nothing is on its way in either direction; so whatever it receives
in the next round answers the commands of that round, each reply its own one.
-/

set_option autoImplicit false

namespace Fanout

variable {Net Sock : Type} {transport : Transport Net Sock}

/-- What has gone over a socket: the commands of the batches that were sent on it, the bytes that
it took of them and the bytes that it delivered. -/
structure Line where
  server : Responder
  commands : List (List ByteArray) := []
  sent : List UInt8 := []
  heard : List UInt8 := []

namespace Line

/-- The server has sent nothing but answers to the commands that it has received whole. What it has
received may end anywhere in what was sent, and what is heard anywhere in its answers. -/
def Honest (line : Line) : Prop :=
  ∃ received, Command.bytes received <+: line.sent ∧ line.heard <+: line.server.sends received

structure Settled (line : Line) : Prop where
  sent : line.sent = Command.bytes line.commands
  heard : line.heard = line.server.sends line.commands

def extend (line : Line) (commands : List (List ByteArray)) (sent heard : ByteArray) : Line :=
  { line with
    commands := line.commands ++ commands
    sent := line.sent ++ sent.data.toList
    heard := line.heard ++ heard.data.toList }

variable {line : Line} {commands : List (List ByteArray)} {sent heard : ByteArray}

theorem settled_new (server : Responder) : Settled { server := server } := ⟨rfl, rfl⟩

theorem Settled.sent_extend (settled : line.Settled)
    (begins : sent.data.toList <+: Command.bytes commands) :
    (line.extend commands sent heard).sent <+: Command.bytes (line.commands ++ commands) := by
  have whole : Command.bytes (line.commands ++ commands) =
      line.sent ++ Command.bytes commands := by
    rw [settled.sent]
    exact List.flatMap_append
  rw [whole]
  exact List.prefix_append_right_inj _ |>.mpr begins

/-- All that is heard after a settled line answers the commands that come next. -/
theorem Settled.heard_begins (settled : line.Settled)
    (begins : sent.data.toList <+: Command.bytes commands)
    (honest : (line.extend commands sent heard).Honest) :
    heard.data.toList <+: joined (line.server.answers line.commands commands) := by
  obtain ⟨received, arrived, answered⟩ := honest
  obtain ⟨later, all⟩ := Command.prefix_of_bytes (arrived.trans (settled.sent_extend begins))
  have more : line.server.sends received <+: line.server.sends (line.commands ++ commands) := by
    rw [← all, Responder.sends_append]
    exact List.prefix_append _ _
  have heard := answered.trans more
  rw [Responder.sends_append, ← settled.heard] at heard
  exact List.prefix_append_right_inj _ |>.mp heard

theorem Settled.extend (settled : line.Settled)
    (begins : sent.data.toList <+: Command.bytes commands)
    (honest : (line.extend commands sent heard).Honest)
    (all : heard.data.toList = joined (line.server.answers line.commands commands)) :
    (line.extend commands sent heard).Settled := by
  have said : (line.extend commands sent heard).heard =
      line.server.sends (line.commands ++ commands) := by
    rw [Responder.sends_append, ← settled.heard, ← all]
    rfl
  have whole := @sent_extend _ _ _ heard settled begins
  obtain ⟨received, arrived, answered⟩ := honest
  obtain ⟨later, split⟩ := Command.prefix_of_bytes (arrived.trans whole)
  rw [said, ← split, Responder.sends_append] at answered
  obtain ⟨rest, same⟩ := answered
  rw [List.append_assoc] at same
  have nothing := (List.append_eq_nil_iff.mp (List.append_right_eq_self.mp same)).1
  obtain rfl := Responder.eq_nil_of_joined nothing
  rw [List.append_nil] at split
  subst split
  exact ⟨whole.eq_of_length_le arrived.length_le, said⟩

end Line

/-! ### Rounds that a connection is used in -/

structure Service (Net : Type) (connection : Connection Sock) where
  engine : Engine
  network : Net
  pairs : List (Pair Sock)
  timeout : Duration
  ordinal : Nat
  commands : List (List ByteArray)
  state : Metered Batch
  composed : Batch.Composed commands state
  present : (Round.enlist engine network pairs).pairs[ordinal]? = some ⟨connection, state.item⟩

namespace Service

variable {connection : Connection Sock} (service : Service Net connection)

def round : Round Net Sock := Round.enlist service.engine service.network service.pairs

variable (transport)

def sent : ByteArray := service.round.sent transport service.timeout service.ordinal

/-- The bytes that the socket delivers in the round. -/
def heard : ByteArray := service.round.heard transport service.timeout service.ordinal

def after? : Option (Pair Sock) :=
  (service.round.execute transport service.timeout).2.pairs[service.ordinal]?

/-- How the round ends for the pair: as far as they go there is one received reply to each command,
then error replies, and the socket is kept only if none is an error reply. -/
structure Ends (replies : List Reply) (after : Pair Sock) : Prop where
  filled : after.batch.readBuffer.filled = service.heard transport
  answers : after.batch.replies.toList = replies.take service.commands.length ++
    List.replicate (service.commands.length - replies.length)
      (.aborted (after.batch.abortText.getD "").utf8ByteSize)
  aborted : replies.length < service.commands.length → ∃ text, after.batch.abortText = some text
  kept : ∀ socket, after.connection.link.socket? = some socket →
    service.commands.length ≤ replies.length

theorem sends (busy : service.state.item.hasPending = true) :
    ∃ after, service.after? transport = some after ∧
      after.batch.writeBuffer.Sends (Command.encodeAll service.commands)
        (service.sent transport) := by
  obtain ⟨after, there, sends⟩ := @Round.replay_sends _ _ transport _ _ _ _ service.present busy
    service.composed.written.holds (service.round.steps transport service.timeout)
  unfold after?
  rw [Round.execute_pairs]
  exact ⟨after, there, sends⟩

theorem sent_begins :
    (service.sent transport).data.toList <+: Command.bytes service.commands := by
  rw [← Command.toList_encodeAll]
  cases busy : service.state.item.hasPending with
  | false =>
      have nothing : service.sent transport = .empty :=
        Round.sentIn_idle service.present busy (service.round.steps transport service.timeout)
      rw [nothing]
      exact List.nil_prefix
  | true =>
      obtain ⟨_, _, sends⟩ := service.sends transport busy
      rw [← sends.whole, ByteArray.data_append, Array.toList_append]
      exact List.prefix_append _ _

theorem ends :
    ∃ after, service.after? transport = some after ∧
      service.Ends transport (Parser.read {} (service.heard transport).data.toList).replies
        after := by
  obtain ⟨pending, unanswered, empty, plain⟩ := service.composed.fresh
  cases busy : service.state.item.hasPending with
  | false =>
      have nothing : service.heard transport = .empty :=
        Round.heard_idle transport service.timeout service.present busy
      have none : service.commands.length = 0 := by
        rw [← pending]
        exact Nat.eq_zero_of_not_pos (of_decide_eq_false busy)
      have filled : service.state.item.readBuffer.filled = .empty := by
        unfold Buffer.filled
        rw [empty]
        exact ByteArray.extract_eq_empty_iff.mpr (Nat.min_le_left _ _)
      have answers : service.state.item.replies.toList = [] := by rw [unanswered]
      refine ⟨_, Round.execute_idle transport service.timeout service.present busy, ?_⟩
      rw [nothing]
      refine ⟨filled.trans nothing.symm, ?_, ?_, ?_⟩
      · rw [none, Nat.zero_sub]
        exact answers
      · rw [none]
        exact nofun
      · intro _ _
        rw [none]
        exact Nat.zero_le _
  | true =>
      obtain ⟨after, there, delivered, answered⟩ := Round.execute_delivered transport
        service.engine service.network service.pairs service.timeout service.present
        (of_decide_eq_true busy) unanswered empty plain
      dsimp only at delivered
      rw [pending] at delivered
      obtain ⟨filled, _, answers, aborted, gaveUp, _, _⟩ := delivered.delivers answered
      refine ⟨after, there, filled, answers, ?_, ?_⟩
      · intro short
        exact Option.isSome_iff_exists.mp (aborted.mpr short)
      · intro socket open'
        have alive := Link.not_aborted_of_socket open'
        apply Nat.le_of_not_lt
        intro short
        rw [gaveUp.mpr short] at alive
        cases alive

end Service

/-- The line once a round has added to it. -/
def Line.serve (transport : Transport Net Sock) {connection : Connection Sock} (line : Line)
    (service : Service Net connection) : Line :=
  line.extend service.commands (service.sent transport) (service.heard transport)

/-- What a connection has gone through, and the line of its socket: it was used in one round after
another and closed in between. Without a socket the line is a new one, to whatever server the
connection gets next; only one socket is opened in a round. -/
inductive Reused (transport : Transport Net Sock) : Connection Sock → Line → Prop where
  | new (endpoint : Endpoint) (maxErrorLength : Nat) (server : Responder) :
      Reused transport (Connection.new endpoint maxErrorLength) { server := server }
  | closed {connection : Connection Sock} {line : Line} (reused : Reused transport connection line)
      (network : Net) (server : Responder) :
      Reused transport (connection.close transport network).1 { server := server }
  | kept {connection : Connection Sock} {line : Line} {after : Pair Sock} {socket : Sock}
      (reused : Reused transport connection line) (service : Service Net connection)
      (honest : (line.serve transport service).Honest)
      (ended : service.after? transport = some after)
      (open' : after.connection.link.socket? = some socket) :
      Reused transport after.connection (line.serve transport service)
  | lost {connection : Connection Sock} {line : Line} {after : Pair Sock}
      (reused : Reused transport connection line) (service : Service Net connection)
      (ended : service.after? transport = some after)
      (gone : after.connection.link.socket? = none) (server : Responder) :
      Reused transport after.connection { server := server }

/-- Between two rounds nothing is on its way. -/
theorem Reused.settled {connection : Connection Sock} {line : Line}
    (reused : Reused transport connection line) : line.Settled := by
  induction reused with
  | new endpoint maxErrorLength server => exact Line.settled_new server
  | closed reused network server ih => exact Line.settled_new server
  | lost reused service ended gone server ih => exact Line.settled_new server
  | @kept connection line after socket reused service honest ended open' ih =>
      obtain ⟨_, there, ends⟩ := service.ends transport
      cases ended.symm.trans there
      have begins := ih.heard_begins (service.sent_begins transport) honest
      obtain ⟨_, _, all⟩ := read_answers (line.server.wellFormed_answers _ _) begins rfl
      rw [Responder.length_answers] at all
      exact ih.extend (service.sent_begins transport) honest (all (ends.kept socket open'))

/-- A reply that stands for the answer to its command, or the error that the batch was aborted
with. -/
def Batch.Settles (batch : Batch) (answer : ByteArray) (reply : Reply) : Prop :=
  reply.Answers batch.readBuffer.filled answer ∨
    ∃ text, batch.abortText = some text ∧ reply = .aborted text.utf8ByteSize

/-- Whatever a connection has gone through, in the next round each reply of the batch stands for the
answer to its own command, or is the error that the batch was aborted with. -/
theorem Reused.replies_settle (transport : Transport Net Sock) (connection : Connection Sock)
    (line : Line)
    (reused : Reused transport connection line) (service : Service Net connection)
    (honest : (line.serve transport service).Honest) :
    ∃ after, service.after? transport = some after ∧
      List.Forall₂ after.batch.Settles (line.server.answers line.commands service.commands)
        after.batch.replies.toList := by
  obtain ⟨after, there, ends⟩ := service.ends transport
  have begins := reused.settled.heard_begins (service.sent_begins transport) honest
  generalize reads : (Parser.read {} (service.heard transport).data.toList).replies = replies
    at ends
  obtain ⟨few, answered, _⟩ := read_answers (line.server.wellFormed_answers _ _) begins reads
  have length := line.server.length_answers line.commands service.commands
  generalize line.server.answers line.commands service.commands = answers at *
  have whole := ends.answers
  rw [length] at few
  rw [List.take_of_length_le few] at whole
  have received : List.Forall₂ after.batch.Settles (answers.take replies.length) replies := by
    refine answered.imp fun answer reply stands => .inl ?_
    rw [ends.filled]
    exact stands
  have failed : List.Forall₂ after.batch.Settles (answers.drop replies.length)
      (List.replicate (answers.drop replies.length).length
        (.aborted (after.batch.abortText.getD "").utf8ByteSize)) := by
    rw [← List.map_const', List.forall₂_map_right_iff, List.forall₂_same]
    intro answer member
    have short := List.length_pos_of_mem member
    rw [List.length_drop, length] at short
    obtain ⟨text, aborted⟩ := ends.aborted (by omega)
    refine .inr ⟨text, aborted, ?_⟩
    rw [aborted]
    rfl
  rw [List.length_drop, length] at failed
  refine ⟨after, there, ?_⟩
  rw [whole, ← List.take_append_drop replies.length answers]
  exact List.rel_append received failed

/-! ### A server that counts -/

namespace Counting

def server : Responder where
  answer := fun received => (58 :: Decimal.numeral received.length ++ Grammar.crlf).toByteArray
  wellFormed := by
    intro received
    have line : Grammar.IsReply 0 (Grammar.lineLead .integer ::
        Decimal.numeral received.length ++ Grammar.crlf) _ :=
      .line ⟨[], _, _, .inl rfl, Grammar.numeral_numeral _, rfl⟩
    unfold WellFormed
    rw [List.data_toByteArray, List.toList_toArray]
    exact ⟨_, line⟩

/-- The network of that server, for commands of eleven bytes. A socket knows how many bytes it took,
four of them at a time, and how many answers it delivered. -/
def network : Transport Unit (Nat × Nat) where
  dial := fun network _ => (.opened (0, 0), network)
  shake := fun socket => (.established, socket)
  send := fun (taken, answered) bytes => (.accepts 4, (taken + min 4 bytes.size, answered))
  receive := fun (taken, answered) _ =>
    if 11 * answered < taken then
      (.delivers (58 :: Decimal.numeral (answered + 1) ++ Grammar.crlf).toByteArray,
        (taken, answered + 1))
    else (.fails .wouldBlock, (taken, answered))
  watch := .answering none
  deregister := fun network _ => (none, network)
  hangUp := fun network _ => network
  poll := fun network _ _ => (.ready [(0, .io)], 0, network)
  patience := fun _ => 0
  send_interrupted := by
    intro socket bytes later failed
    cases failed
  receive_interrupted := by
    intro socket room later failed
    dsimp only at failed
    split at failed <;> cases failed

def command : List ByteArray := [⟨#[71]⟩]

def batch : Batch :=
  { writeBuffer :=
      { data := ⟨#[42, 49, 13, 10, 36, 49, 13, 10, 71, 13, 10]⟩
        initialCapacity := 11
        position := 11
        limit := 11
        ceiling := Buffer.defaultCeiling }
    readBuffer := Buffer.new 4 Buffer.defaultCeiling
    pending := 1
    countable := one_le_largestWord }

theorem composed_batch : Batch.Composed [command] ⟨batch, ⟨15, 15, 0⟩⟩ := by
  have wrote : Batch.writeCommand command
      (Batch.allocate { readBufferSize := 4, writeBufferSize := 11 } {}) =
        .ok () ⟨batch, ⟨15, 15, 0⟩⟩ := by
    cbv
  exact .command (.new _ _) wrote

def service (connection : Connection (Nat × Nat)) (timeout : Duration) :
    Service Unit connection where
  engine := {}
  network := ()
  pairs := [⟨connection, batch⟩]
  timeout := timeout
  ordinal := 0
  commands := [command]
  state := ⟨batch, ⟨15, 15, 0⟩⟩
  composed := composed_batch
  present := rfl

def fresh : Connection (Nat × Nat) := Connection.new ⟨"somewhere", 6379⟩ 255

/-! The round in which the connection is set up: the first event lets it send, the second one
receive. -/

def dialing : Round Unit (Nat × Nat) :=
  { engine := {}
    network := ()
    pairs := [⟨{ fresh with link := .connecting (0, 0) },
      { batch with sent := true, writeBuffer := { batch.writeBuffer with position := 0 } }⟩]
    interests := { slots := [{ wanted := .writing, registered := true }], outstanding := 1 } }

def waiting : Batch := { batch with sent := true }

def listening : Round Unit (Nat × Nat) :=
  { engine := {}
    network := ()
    pairs := [⟨{ fresh with link := .connected (11, 0) }, waiting⟩]
    interests := { slots := [{ wanted := .reading, registered := true }], outstanding := 1 } }

def received : Batch :=
  { waiting with
    readBuffer := { waiting.readBuffer with position := 4, data := ⟨#[58, 49, 13, 10]⟩ } }

def answered : Batch :=
  { received with pending := 0, replies := #[.line .integer 1 1], countable := Nat.zero_le _ }

def used : Connection (Nat × Nat) :=
  { fresh with link := .connected (11, 1), parser := { position := 4, mark := 1 } }

def settled : Round Unit (Nat × Nat) :=
  { engine := {}
    network := ()
    pairs := [⟨used, answered⟩]
    interests := { slots := [{ wanted := .empty, registered := true }], outstanding := 0 } }

theorem startAll_fresh : (service fresh 1).round.startAll network = dialing := by cbv

theorem deliver_dialing : dialing.deliver network (0, .io) = listening := by cbv

theorem run_waiting :
    Intake.run network ⟨{}, waiting, {}, (11, 0), none⟩ =
      (.answered, ⟨used.parser, answered, {}, (11, 1), none⟩) := by
  have quiet : Parser.run {} waiting.readBuffer.filled = ({}, .incomplete) := by cbv
  have arrives : Intake.receive network ⟨{}, waiting, {}, (11, 0), none⟩ =
      (.ok 4, ⟨{}, received, {}, (11, 1), none⟩) := by cbv
  have parsed : Parser.run {} received.readBuffer.filled =
      (used.parser, .complete (.line .integer 1 1)) := by cbv
  rw [Intake.run, dif_neg (by decide), quiet]
  dsimp only
  rw [arrives]
  dsimp only
  rw [Intake.run, dif_neg (by decide), parsed]
  dsimp only
  rw [Intake.run, dif_pos (by rfl)]
  rfl

theorem deliver_listening : listening.deliver network (0, .io) = settled := by
  have reads : Turn.readData network ((listening.dropHit (0, .io)).seat 0
      ⟨{ fresh with link := .connected (11, 0) }, waiting⟩) = settled.seat 0 ⟨used, answered⟩ := by
    have begins : Turn.intake ((listening.dropHit (0, .io)).seat 0
        ⟨{ fresh with link := .connected (11, 0) }, waiting⟩) (11, 0) =
        ⟨{}, waiting, {}, (11, 0), none⟩ := by
      cbv
    refine (Turn.readData_connected network rfl).trans ?_
    rw [begins, run_waiting]
    rfl
  exact congrArg Round.alone reads

theorem loop_dialing :
    dialing.loop network ((service fresh 1).round.allowed network 1) = (.completed, settled) := by
  have first : Round.deliverAll network { dialing with network := () } [(0, .io)] = listening :=
    deliver_dialing
  have second : Round.deliverAll network { listening with network := () } [(0, .io)] = settled :=
    deliver_listening
  rw [Round.loop, if_neg (by decide), dif_neg (by decide)]
  change Round.loop network
    (Round.deliverAll network { dialing with network := () } [(0, .io)]) _ = _
  rw [first, Round.loop, if_neg (by decide), dif_neg (by decide)]
  change Round.loop network
    (Round.deliverAll network { listening with network := () } [(0, .io)]) _ = _
  rw [second, Round.loop, if_pos (by decide)]

theorem after_fresh : (service fresh 1).after? network = some ⟨used, answered⟩ := by
  have ended : (service fresh 1).round.execute network 1 =
      (.completed, settled.finishAll network) := by
    unfold Round.execute
    rw [startAll_fresh, loop_dialing]
    rfl
  change ((service fresh 1).round.execute network 1).2.pairs[0]? = _
  rw [ended]
  rfl

theorem sent_fresh : (service fresh 1).sent network = batch.writeBuffer.data := by
  obtain ⟨after, there, sends⟩ := (service fresh 1).sends network rfl
  cases after_fresh.symm.trans there
  have nothing : answered.writeBuffer.readable = .empty := by cbv
  have whole := sends.whole
  dsimp only at whole
  rw [nothing, ByteArray.append_empty] at whole
  rw [whole]
  cbv

theorem heard_fresh : (service fresh 1).heard network = ⟨#[58, 49, 13, 10]⟩ := by
  obtain ⟨after, there, ends⟩ := (service fresh 1).ends network
  cases after_fresh.symm.trans there
  exact ends.filled.symm

def line : Line := ({ server := server } : Line).serve network (service fresh 1)

theorem honest_line : line.Honest := by
  have bytes : Command.bytes [command] = batch.writeBuffer.data.data.toList := by cbv
  have answers : server.sends [command] = [58, 49, 13, 10] := by cbv
  refine ⟨[command], ?_, ?_⟩
  · change _ <+: [] ++ ((service fresh 1).sent network).data.toList
    rw [sent_fresh, bytes]
    exact List.prefix_refl _
  · change [] ++ ((service fresh 1).heard network).data.toList <+: server.sends [command]
    rw [heard_fresh, answers]
    exact List.prefix_refl _

/-! The next round has no time: the command is sent and nothing is received. -/

theorem heard_used : (service used 0).heard network = .empty := by
  have steps : (service used 0).round.steps network 0 = [.sweep 0 .timedOut, .finish 0] := by cbv
  have swept : ((service used 0).round.startAll network).hears network 0
      (.sweep 0 .timedOut) = .empty := by
    cbv
  change ((service used 0).round.startAll network).heardIn network 0
    ((service used 0).round.steps network 0) = _
  rw [steps, Round.heardIn, swept]
  rfl

theorem honest_again : (line.serve network (service used 0)).Honest := by
  obtain ⟨received, arrived, answered⟩ := honest_line
  refine ⟨received, arrived.trans (List.prefix_append _ _), ?_⟩
  change line.heard ++ ((service used 0).heard network).data.toList <+: server.sends received
  rw [heard_used]
  exact (List.append_nil line.heard).symm ▸ answered

end Counting

theorem Reused.replies_settle_counting :
    ∃ after, (Counting.service Counting.used 0).after? Counting.network = some after ∧
      List.Forall₂ after.batch.Settles
        (Counting.line.server.answers Counting.line.commands [Counting.command])
        after.batch.replies.toList :=
  replies_settle Counting.network Counting.used Counting.line
    (.kept (.new _ _ Counting.server) (Counting.service Counting.fresh 1) Counting.honest_line
      Counting.after_fresh rfl)
    (Counting.service Counting.used 0) Counting.honest_again

end Fanout
