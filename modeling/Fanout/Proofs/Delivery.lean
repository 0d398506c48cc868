import Fanout.Proofs.Answering
import Fanout.Proofs.Ranges
import Fanout.Proofs.Recognition

/-!
What a round delivers. The replies of a batch are the first complete replies of the bytes that its
connection received, one for each command, and the commands behind them get error replies with the
text the batch was aborted with.
-/

set_option autoImplicit false

namespace Fanout

open Grammar

variable {Net Sock : Type} {transport : Transport Net Sock}

/-- How the replies of a batch of `commands` commands follow from the bytes received so far. While
the connection is alive they are those before the parser's position, and the parser has read all
of the bytes as long as commands are pending. -/
structure Delivered (commands : Nat) (heard : ByteArray) (pair : Pair Sock) : Prop where
  filled : pair.batch.readBuffer.filled = heard
  inside : pair.batch.readBuffer.position ≤ pair.batch.readBuffer.capacity
  total : pair.batch.total = commands
  alive : pair.connection.link.isAborted = false →
    pair.batch.abortText = none ∧
      Parser.Reaches {} heard ⟨pair.connection.parser, pair.batch.replies.toList, none⟩ ∧
      (0 < pair.batch.pending → pair.connection.parser.position = heard.size)
  gone : pair.connection.link.isAborted = true →
    ∃ text missing, pair.batch.abortText = some text ∧ 0 < missing ∧ pair.batch.pending = 0 ∧
      pair.batch.replies.toList = (Parser.read {} heard.data.toList).replies ++
        List.replicate missing (.aborted text.utf8ByteSize)

namespace Delivered

variable {commands : Nat} {heard : ByteArray} {turn before after : Turn Net Sock}

theorem keep {pair : Pair Sock} (delivered : Delivered commands heard turn.pair)
    (was : turn.connection.link.isAborted = false)
    (readBuffer : pair.batch.readBuffer = turn.batch.readBuffer)
    (replies : pair.batch.replies = turn.batch.replies)
    (pending : pair.batch.pending = turn.batch.pending)
    (text : pair.batch.abortText = turn.batch.abortText)
    (parser : pair.connection.parser = turn.connection.parser)
    (alive : pair.connection.link.isAborted = false) :
    Delivered commands (heard ++ ByteArray.empty) pair := by
  have total := delivered.total
  unfold Batch.total at total
  rw [ByteArray.append_empty]
  refine ⟨?_, ?_, ?_, ?_, ?_⟩
  · rw [readBuffer]
    exact delivered.filled
  · rw [readBuffer]
    exact delivered.inside
  · unfold Batch.total
    rw [replies, pending]
    exact total
  · intro _
    rw [text, parser, replies, pending]
    exact delivered.alive was
  · intro gone
    rw [alive] at gone
    cases gone

theorem abort (filled : turn.batch.readBuffer.filled = heard)
    (inside : turn.batch.readBuffer.position ≤ turn.batch.readBuffer.capacity)
    (total : turn.batch.total = commands) (fresh : turn.batch.abortText = none)
    (replies : (Parser.read {} heard.data.toList).replies = turn.batch.replies.toList)
    (alive : turn.connection.link.isAborted = false) (busy : 0 < turn.batch.pending)
    (cause : AbortCause) : Delivered commands heard (turn.abort transport cause).pair := by
  have batch := @Turn.abort_batch _ _ transport _ alive cause
  have aborted := Turn.abort_aborted transport turn cause
  have plain : turn.batch.isAborted = false := by
    unfold Batch.isAborted
    rw [fresh]
    rfl
  rw [plain, if_neg Bool.false_ne_true] at batch
  unfold Turn.pair
  rw [batch]
  refine ⟨filled, inside, ?_, ?_, ?_⟩
  · rw [← total]
    simp only [Batch.total, Batch.failPending, Array.size_append, Array.size_replicate,
      Nat.add_zero]
  · intro still
    rw [aborted] at still
    cases still
  · intro _
    refine ⟨turn.abortText cause, turn.batch.pending, rfl, busy, rfl, ?_⟩
    rw [replies]
    simp only [Batch.failPending, Array.toList_append, Array.toList_replicate]

/-- While commands are pending all replies that were received are taken. -/
theorem replies_of_busy (delivered : Delivered commands heard turn.pair)
    (alive : turn.connection.link.isAborted = false) (busy : 0 < turn.batch.pending) :
    (Parser.read {} heard.data.toList).replies = turn.batch.replies.toList := by
  obtain ⟨_, reads, position⟩ := delivered.alive alive
  have all := reads.read_eq fun _ => position busy
  exact congrArg Reading.replies all

theorem parsed (delivered : Delivered commands heard turn.pair) {socket : Sock}
    (connected : turn.connection.link = .connected socket) :
    (turn.intake socket).Parsed := by
  have alive : turn.connection.link.isAborted = false := by
    rw [connected]
    rfl
  refine ⟨delivered.inside, ?_⟩
  have reads := (delivered.alive alive).2.1
  rw [← delivered.filled] at reads
  exact reads

variable {socket : Sock} {ended : IntakeEnd} {intake : Intake Sock}

theorem total_received (delivered : Delivered commands heard turn.pair)
    (runs : (turn.intake socket).run transport = (ended, intake)) :
    intake.batch.total = commands ∧ intake.batch.abortText = turn.batch.abortText := by
  have keeps := Intake.run_keeps transport (turn.intake socket)
  rw [runs] at keeps
  exact ⟨keeps.total.trans delivered.total, keeps.abortText⟩

theorem received (delivered : Delivered commands heard turn.pair)
    (connected : turn.connection.link = .connected socket)
    (runs : (turn.intake socket).run transport = (ended, intake))
    (fine : ∀ cause, ended ≠ .failed cause) :
    Delivered commands (heard ++ (turn.intake socket).heard transport)
      (turn.withIntake intake).pair := by
  have alive : turn.connection.link.isAborted = false := by
    rw [connected]
    rfl
  obtain ⟨total, text⟩ := delivered.total_received runs
  obtain ⟨filled, inside, ends⟩ := Intake.run_parsed transport (delivered.parsed connected)
  have answered := Intake.answered_iff transport (turn.intake socket)
  have same : (turn.intake socket).batch.readBuffer.filled = heard := delivered.filled
  rw [same] at filled
  rw [runs] at filled inside ends answered
  dsimp only at filled inside ends answered
  refine ⟨filled, inside, total, ?_, nofun⟩
  intro _
  rw [← filled]
  refine ⟨text.trans (delivered.alive alive).1, ?_⟩
  cases ended with
  | answered => exact ⟨ends.reads, fun busy => absurd (answered.mp rfl) (Nat.ne_of_gt busy)⟩
  | blocked => exact ⟨ends.1.reads, fun _ => ends.2⟩
  | failed cause => exact absurd rfl (fine cause)

theorem lost (delivered : Delivered commands heard turn.pair)
    (connected : turn.connection.link = .connected socket) {cause : AbortCause}
    (runs : (turn.intake socket).run transport = (.failed cause, intake)) :
    Delivered commands (heard ++ (turn.intake socket).heard transport)
      ((turn.withIntake intake).abort transport cause).pair := by
  have alive : turn.connection.link.isAborted = false := by
    rw [connected]
    rfl
  obtain ⟨total, text⟩ := delivered.total_received runs
  obtain ⟨filled, inside, ends⟩ := Intake.run_parsed transport (delivered.parsed connected)
  have answered := Intake.answered_iff transport (turn.intake socket)
  have same : (turn.intake socket).batch.readBuffer.filled = heard := delivered.filled
  rw [same] at filled
  rw [runs] at filled inside ends answered
  dsimp only at filled inside ends answered
  have missing : 0 < (turn.withIntake intake).batch.pending :=
    Nat.pos_of_ne_zero fun none => nomatch answered.mpr none
  have replies : (Parser.read {} intake.batch.readBuffer.filled.data.toList).replies =
      intake.batch.replies.toList := ends
  rw [filled] at replies
  have fresh : intake.batch.abortText = none := text.trans (delivered.alive alive).1
  exact @abort _ _ transport _ _ (turn.withIntake intake) filled inside total fresh replies rfl
    missing cause

theorem move {more : ByteArray} (delivered : Delivered commands heard before.pair)
    (busy : 0 < before.batch.pending) (move : Turn.Move transport before more after) :
    Delivered commands (heard ++ more) after.pair := by
  have was := move.alive
  have replies := delivered.replies_of_busy was busy
  have fresh := (delivered.alive was).1
  cases move with
  | @unreachable dialing network cause closed dials =>
      rw [ByteArray.append_empty]
      exact @abort _ _ transport _ _ { before with network := network } delivered.filled
        delivered.inside delivered.total fresh replies was busy cause
  | opened closed dials => exact delivered.keep was rfl rfl rfl rfl rfl rfl
  | @shaken socket later handshake connecting shakes =>
      exact delivered.keep was rfl rfl rfl rfl rfl ((Link.isAborted_withSocket _ later).trans was)
  | established connecting shakes => exact delivered.keep was rfl rfl rfl rfl rfl rfl
  | @asked socket later event refusal interests known asks =>
      exact delivered.keep was rfl rfl rfl rfl rfl ((Link.isAborted_withSocket _ later).trans was)
  | @sent socket later ended buffer connected sends =>
      exact delivered.keep was rfl rfl rfl rfl rfl ((Link.isAborted_withSocket _ later).trans was)
  | received connected runs fine => exact delivered.received connected runs fine
  | lost connected runs => exact delivered.lost connected runs
  | @gaveUp cause alive =>
      rw [ByteArray.append_empty]
      exact abort delivered.filled delivered.inside delivered.total fresh replies alive busy cause
  | broke known asks => exact delivered.keep was rfl rfl rfl rfl rfl was

theorem entered {pair : Pair Sock} (empty : pair.batch.readBuffer.position = 0)
    (unanswered : pair.batch.replies = #[]) (fresh : pair.batch.abortText = none) :
    Delivered pair.batch.pending .empty pair.prepared := by
  obtain ⟨readBuffer, pending, replies, text⟩ := pair.prepared_batch
  have filled : pair.batch.readBuffer.filled = .empty := by
    unfold Buffer.filled
    rw [empty]
    exact ByteArray.extract_eq_empty_iff.mpr (Nat.min_le_left _ _)
  refine ⟨?_, ?_, ?_, ?_, ?_⟩
  · rw [readBuffer, filled]
  · rw [readBuffer, empty]
    exact Nat.zero_le _
  · unfold Batch.total
    rw [replies, pending, unanswered]
    exact Nat.zero_add _
  · intro _
    rw [text, replies, unanswered]
    exact ⟨fresh, .refl _ _, fun _ => rfl⟩
  · intro gone
    rw [pair.prepared_alive] at gone
    cases gone

theorem served {pair after : Pair Sock} {bytes : ByteArray}
    (empty : pair.batch.readBuffer.position = 0) (unanswered : pair.batch.replies = #[])
    (fresh : pair.batch.abortText = none)
    (served : Served transport pair.prepared bytes after) :
    Delivered pair.batch.pending bytes after := by
  induction served with
  | entered => exact entered empty unanswered fresh
  | move served busy move ih => exact ih.move busy move

end Delivered

/-! ### The bytes of replies -/

namespace Batch

theorem replyData_received {batch : Batch} {reply : Reply}
    (inside : batch.readBuffer.position ≤ batch.readBuffer.capacity)
    (within : reply.Within 0 batch.readBuffer.filled.size) (received : reply.source = .received) :
    batch.replyData reply =
      .ok (some (batch.readBuffer.filled.extract reply.offset (reply.offset + reply.length))) := by
  have ends := (within received).2
  rw [Buffer.size_filled inside] at ends
  unfold replyData Buffer.slice
  rw [received]
  dsimp only
  rw [if_pos (Nat.le_trans ends inside), Buffer.filled, ByteArray.extract_extract, Nat.zero_add,
    Nat.zero_add, Nat.min_eq_left ends]
  rfl

theorem replyData_aborted {batch : Batch} {text : String} (aborted : batch.abortText = some text) :
    batch.replyData (.aborted text.utf8ByteSize) = .ok (some text.toUTF8) := by
  have fits : (Reply.aborted text.utf8ByteSize).length ≤ text.utf8ByteSize := Nat.le_refl _
  have whole : text.toUTF8.extract 0 text.toUTF8.size = text.toUTF8 :=
    ByteArray.extract_zero_size
  unfold replyData
  rw [aborted]
  dsimp only [Reply.source]
  rw [if_pos fits]
  exact congrArg (Except.ok ∘ some) whole

end Batch

/-- What a round has made of a pair with `commands` pending commands that received `heard`, whose
complete replies are `replies`. -/
structure Delivers (commands : Nat) (heard : ByteArray) (replies : List Reply)
    (after : Pair Sock) : Prop where
  filled : after.batch.readBuffer.filled = heard
  front : Front heard.data.toList replies
  /-- One reply for each command, as far as they go, then error replies. -/
  answers : after.batch.replies.toList =
    replies.take commands ++
      List.replicate (commands - replies.length)
        (.aborted (after.batch.abortText.getD "").utf8ByteSize)
  aborted : after.batch.isAborted = true ↔ replies.length < commands
  gaveUp : after.connection.link.isAborted = true ↔ replies.length < commands
  /-- Values are ranges of the received bytes. -/
  received : ∀ reply ∈ replies.take commands, ∀ part ∈ reply.parts, part.source = .received →
    after.batch.replyData part =
      .ok (some (heard.extract part.offset (part.offset + part.length)))
  /-- Error replies have the text that the batch was aborted with. -/
  failed : ∀ text, after.batch.abortText = some text →
    after.batch.replyData (.aborted text.utf8ByteSize) = .ok (some text.toUTF8)

theorem Delivered.replies_prefix {heard : ByteArray} {parser : Parser} {replies : List Reply}
    (reads : Parser.Reaches {} heard ⟨parser, replies, none⟩) :
    replies <+: (Parser.read {} heard.data.toList).replies := by
  obtain ⟨taken, unread, _, fine⟩ := reads
  have whole : heard.data.toList = taken ++ parser.unread heard := unread
  rw [whole, Parser.read_append_of_fine fine]
  exact List.prefix_append _ _

namespace Delivered

variable {commands : Nat} {heard : ByteArray} {after : Pair Sock} {replies : List Reply}

theorem length_replies (delivered : Delivered commands heard after)
    (answered : after.batch.pending = 0) : after.batch.replies.toList.length = commands := by
  have total := delivered.total
  unfold Batch.total at total
  rwa [answered, Nat.add_zero] at total

theorem of_alive (delivered : Delivered commands heard after) (answered : after.batch.pending = 0)
    (alive : after.connection.link.isAborted = false)
    (reads : (Parser.read {} heard.data.toList).replies = replies) :
    after.batch.isAborted = false ∧ commands ≤ replies.length ∧
      after.batch.replies.toList = replies.take commands := by
  obtain ⟨text, reaches, _⟩ := delivered.alive alive
  have taken := replies_prefix reaches
  rw [reads] at taken
  have size := delivered.length_replies answered
  refine ⟨?_, ?_, ?_⟩
  · unfold Batch.isAborted
    rw [text]
    rfl
  · rw [← size]
    exact taken.length_le
  · rw [← size]
    exact List.prefix_iff_eq_take.mp taken

theorem of_gone (delivered : Delivered commands heard after) (answered : after.batch.pending = 0)
    (gone : after.connection.link.isAborted = true)
    (reads : (Parser.read {} heard.data.toList).replies = replies) :
    ∃ text, after.batch.abortText = some text ∧ replies.length < commands ∧
      after.batch.replies.toList =
        replies ++ List.replicate (commands - replies.length) (.aborted text.utf8ByteSize) := by
  obtain ⟨text, missing, aborted, some', _, all⟩ := delivered.gone gone
  have size := delivered.length_replies answered
  rw [reads] at all
  rw [all, List.length_append, List.length_replicate] at size
  have rest : commands - replies.length = missing := by omega
  refine ⟨text, aborted, by omega, ?_⟩
  rw [rest]
  exact all

theorem delivers (delivered : Delivered commands heard after)
    (answered : after.batch.pending = 0) :
    Delivers commands heard (Parser.read {} heard.data.toList).replies after := by
  have front := front_read heard.data.toList
  generalize reads : (Parser.read {} heard.data.toList).replies = replies at front ⊢
  have received : ∀ reply ∈ replies.take commands, ∀ part ∈ reply.parts,
      part.source = .received → after.batch.replyData part =
        .ok (some (heard.extract part.offset (part.offset + part.length))) := by
    intro reply delivered' part member source
    obtain ⟨whole, rest, joined, stream, _⟩ := front
    have within := stream.within (List.mem_of_mem_take delivered') member
    have inside : part.Within 0 after.batch.readBuffer.filled.size := by
      apply within.mono (Nat.le_refl 0)
      have size : heard.size = heard.data.toList.length := rfl
      rw [delivered.filled, size, joined, List.length_append]
      omega
    rw [Batch.replyData_received delivered.inside inside source, delivered.filled]
  have failed : ∀ text, after.batch.abortText = some text →
      after.batch.replyData (.aborted text.utf8ByteSize) = .ok (some text.toUTF8) :=
    fun _ aborted => Batch.replyData_aborted aborted
  cases alive : after.connection.link.isAborted with
  | false =>
      obtain ⟨text, enough, all⟩ := delivered.of_alive answered alive reads
      have none : commands - replies.length = 0 := by omega
      refine ⟨delivered.filled, front, ?_, ?_, ?_, received, failed⟩
      · rw [none, List.replicate_zero, List.append_nil]
        exact all
      · rw [text]
        exact ⟨nofun, fun short => absurd enough (Nat.not_le_of_gt short)⟩
      · rw [alive]
        exact ⟨nofun, fun short => absurd enough (Nat.not_le_of_gt short)⟩
  | true =>
      obtain ⟨text, aborted, short, all⟩ := delivered.of_gone answered alive reads
      refine ⟨delivered.filled, front, ?_, ?_, ?_, received, failed⟩
      · rw [List.take_of_length_le (Nat.le_of_lt short), aborted]
        exact all
      · unfold Batch.isAborted
        rw [aborted]
        exact ⟨fun _ => short, fun _ => rfl⟩
      · exact ⟨fun _ => short, fun _ => alive⟩

end Delivered

theorem Round.execute_delivered (transport : Transport Net Sock) (engine : Engine) (network : Net)
    (pairs : List (Pair Sock)) (timeout : Duration) {ordinal : Nat} {pair : Pair Sock}
    (added : (enlist engine network pairs).pairs[ordinal]? = some pair)
    (busy : 0 < pair.batch.pending) (unanswered : pair.batch.replies = #[])
    (empty : pair.batch.readBuffer.position = 0) (fresh : pair.batch.abortText = none) :
    ∃ after,
      ((enlist engine network pairs).execute transport timeout).2.pairs[ordinal]? = some after ∧
      Delivered pair.batch.pending
        ((enlist engine network pairs).heard transport timeout ordinal) after ∧
      after.batch.pending = 0 := by
  have settles := @execute_givenUp _ _ _ transport (enlist_counted engine network pairs) timeout
    ordinal
  obtain ⟨after, there, served⟩ := execute_served transport timeout added (decide_eq_true busy)
  have delivered := Delivered.served empty unanswered fresh served
  refine ⟨after, there, delivered, ?_⟩
  apply Nat.eq_zero_of_not_pos
  intro missing
  obtain ⟨_, _, _, _, none, _⟩ := delivered.gone (settles after there (decide_eq_true missing))
  exact Nat.ne_of_gt missing none

/-- A round delivers the complete replies that were received, in order, and answers what is left
with error replies. -/
theorem Round.execute_delivers (transport : Transport Net Sock) (engine : Engine) (network : Net)
    (pairs : List (Pair Sock)) (timeout : Duration) (ordinal : Nat) (pair : Pair Sock)
    (added : (enlist engine network pairs).pairs[ordinal]? = some pair)
    (busy : 0 < pair.batch.pending) (unanswered : pair.batch.replies = #[])
    (empty : pair.batch.readBuffer.position = 0) (fresh : pair.batch.abortText = none) :
    ∃ after replies,
      ((enlist engine network pairs).execute transport timeout).2.pairs[ordinal]? = some after ∧
      Delivers pair.batch.pending
        ((enlist engine network pairs).heard transport timeout ordinal) replies after := by
  obtain ⟨after, there, delivered, answered⟩ := execute_delivered transport engine network pairs
    timeout added busy unanswered empty fresh
  exact ⟨after, _, there, delivered.delivers answered⟩

namespace Breaking

/-- A network whose sockets deliver one reply and then break. -/
def network : Transport Unit Bool where
  dial := fun network _ => (.opened true, network)
  shake := fun socket => (.established, socket)
  send := fun socket _ => (.accepts 12, socket)
  receive := fun whole _ =>
    if whole then (.delivers ⟨#[43, 80, 79, 78, 71, 13, 10]⟩, false)
    else (.fails .connectionReset, false)
  watch := .answering none
  deregister := fun network _ => (none, network)
  hangUp := fun network _ => network
  poll := fun network _ _ => (.ready [(0, .reading)], 0, network)
  patience := fun _ => 0
  send_interrupted := by
    intro socket bytes later failed
    cases failed
  receive_interrupted := by
    intro socket room later failed
    cases socket <;> cases failed

def batch : Batch :=
  { writeBuffer :=
      { data := ⟨#[80, 73, 78, 71, 13, 10, 80, 73, 78, 71, 13, 10]⟩
        initialCapacity := 12
        position := 12
        limit := 12
        ceiling := Buffer.defaultCeiling }
    readBuffer := Buffer.new 16 Buffer.defaultCeiling
    pending := 2
    countable := by decide }

def pair : Pair Bool := ⟨⟨⟨"nowhere", 6379⟩, .connected true, {}, 255⟩, batch⟩

def round : Round Unit Bool := Round.enlist {} () [pair]

def begun : Batch := { batch with sent := true }

def listening : Round Unit Bool :=
  { engine := {}
    network := ()
    pairs := [⟨pair.connection, begun⟩]
    interests := { slots := [{ wanted := .reading, registered := true }], outstanding := 1 } }

def received : Batch :=
  { begun with
    readBuffer := { begun.readBuffer with
      position := 7
      data := ⟨#[43, 80, 79, 78, 71, 13, 10, 234, 234, 234, 234, 234, 234, 234, 234, 234]⟩ } }

theorem startAll_round : round.startAll network = listening := by
  have sends : sendPending network pair.batch.startSending.writeBuffer true =
      (.drained, begun.writeBuffer, true) := by
    rw [sendPending, if_neg (by decide)]
    change sendPending network begun.writeBuffer true = _
    rw [sendPending, if_pos (by decide)]
  have sent : Turn.writeData network (round.seat 0 pair).prepare =
      { round.seat 0 pair with batch := begun } := by
    have connected : (round.seat 0 pair).connection.link = .connected true := rfl
    change Turn.sendData network { round.seat 0 pair with batch := pair.batch.startSending } = _
    rw [Turn.sendData, connected]
    dsimp only
    rw [sends]
    rfl
  have starts : Turn.start network (round.seat 0 pair) =
      listening.seat 0 ⟨pair.connection, begun⟩ := by
    rw [Turn.start, sent]
    rfl
  exact congrArg Round.alone starts


def answered : Batch :=
  { received with pending := 1, replies := #[.line .ok 1 4], countable := one_le_largestWord }

def parser : Parser := ⟨7, .start, 1, 0, none⟩

def text : String :=
  let cause := AbortCause.readFailed (.io .connectionReset)
  Text.truncate (cause.message pair.connection.endpoint) 255

def broken : Round Unit Bool :=
  { engine := {}
    network := ()
    pairs := [⟨{ pair.connection with link := .aborted, parser := parser },
      answered.failPending text⟩]
    interests := { slots := [{}], outstanding := 0 } }

theorem run_begun :
    Intake.run network ⟨{}, begun, {}, true, none⟩ =
      (.failed (.readFailed (.io .connectionReset)), ⟨parser, answered, {}, false, none⟩) := by
  have quiet : Parser.run {} begun.readBuffer.filled = ({}, .incomplete) := by
    decide +kernel
  have arrives : Intake.receive network ⟨{}, begun, {}, true, none⟩ =
      (.ok 7, ⟨{}, received, {}, false, none⟩) := rfl
  have parsed : Parser.run {} received.readBuffer.filled =
      (parser, .complete (.line .ok 1 4)) := by
    decide +kernel
  have ended : Parser.run parser answered.readBuffer.filled = (parser, .incomplete) := by
    decide +kernel
  have breaks : Intake.receive network ⟨parser, answered, {}, false, none⟩ =
      (.error (.io .connectionReset), ⟨parser, answered, {}, false, none⟩) := rfl
  rw [Intake.run, dif_neg (by decide), quiet]
  dsimp only
  rw [arrives]
  dsimp only
  rw [Intake.run, dif_neg (by decide), parsed]
  dsimp only
  change Intake.run network ⟨parser, answered, {}, false, none⟩ = _
  rw [Intake.run, dif_neg (by decide)]
  dsimp only
  rw [ended]
  dsimp only
  rw [breaks]
  rfl

theorem deliver_listening : listening.deliver network (0, .reading) = broken := by
  have reads : Turn.readData network ((listening.dropHit (0, .reading)).seat 0
      ⟨pair.connection, begun⟩) =
      Turn.abort network ((listening.dropHit (0, .reading)).seat 0
        ⟨{ pair.connection with link := .connected false, parser := parser }, answered⟩)
        (.readFailed (.io .connectionReset)) := by
    have begins : Turn.intake ((listening.dropHit (0, .reading)).seat 0
        ⟨pair.connection, begun⟩) true = ⟨{}, begun, {}, true, none⟩ := rfl
    refine (Turn.readData_connected network rfl).trans ?_
    rw [begins, run_begun]
    rfl
  exact congrArg Round.alone reads

theorem loop_listening :
    listening.loop network (round.allowed network 1000) = (.completed, broken) := by
  have delivered : Round.deliverAll network { listening with network := () } [(0, .reading)] =
      broken := deliver_listening
  rw [Round.loop, if_neg (by decide), dif_neg (by decide)]
  change Round.loop network
    (Round.deliverAll network { listening with network := () } [(0, .reading)]) _ = _
  rw [delivered, Round.loop, if_pos (by decide)]

theorem execute_round : (round.execute network 1000).2.pairs[0]? = some broken.pairs[0] := by
  have ended : round.execute network 1000 = (.completed, broken.finishAll network) := by
    unfold Round.execute
    rw [startAll_round, loop_listening]
    rfl
  rw [ended]
  rfl

end Breaking

/-- The first command is answered before the connection breaks, and the second one with the text. -/
theorem Round.execute_delivers_breaking :
    ∃ after replies, (Breaking.round.execute Breaking.network 1000).2.pairs[0]? = some after ∧
      Delivers 2 (Breaking.round.heard Breaking.network 1000 0) replies after ∧
      replies.length = 1 ∧
      after.batch.replies.toList = [.line .ok 1 4, .aborted Breaking.text.utf8ByteSize] := by
  obtain ⟨after, replies, there, delivers⟩ := execute_delivers Breaking.network {} ()
    [Breaking.pair] 1000 0 Breaking.pair rfl (by decide) rfl rfl rfl
  have left : after = Breaking.broken.pairs[0] :=
    Option.some.inj (there.symm.trans Breaking.execute_round)
  have all : after.batch.replies.toList = [.line .ok 1 4, .aborted Breaking.text.utf8ByteSize] := by
    rw [left]
    rfl
  have short := delivers.aborted.mp (by rw [left]; rfl)
  refine ⟨after, replies, there, delivers, ?_, all⟩
  have answers := delivers.answers
  change after.batch.replies.toList = replies.take 2 ++ _ at answers
  change replies.length < 2 at short
  rw [all] at answers
  cases replies with
  | nil => cases (List.cons.inj answers).1
  | cons reply others =>
      rw [List.length_cons] at short ⊢
      omega

end Fanout
