import Fanout.Proofs.Answering
import Fanout.Proofs.Writing

/-!
Sending. The bytes that sockets take from a pair in a round are the beginning of what was written
into its batch, each of them once and in order, however the sockets cut them; and the position of
the send buffer is always how many of them were taken.
-/

set_option autoImplicit false

namespace Fanout

variable {Net Sock : Type}

/-! ### One socket -/

namespace Buffer

variable {σ : Type} {bytes more content : ByteArray} {before middle after buffer : Buffer}
  {sink : σ → ByteArray → SendAnswer × σ} {peer later : σ}

structure Ready (buffer : Buffer) : Prop where
  ordered : buffer.position ≤ buffer.limit
  inside : buffer.limit ≤ buffer.capacity

structure Advances (bytes : ByteArray) (before after : Buffer) : Prop where
  moved : after = { before with position := before.position + bytes.size }
  readable : bytes ++ after.readable = before.readable
  ready : after.Ready

theorem Advances.refl (ready : buffer.Ready) : Advances .empty buffer buffer :=
  ⟨rfl, ByteArray.empty_append, ready⟩

theorem Advances.trans (one : Advances bytes before middle) (two : Advances more middle after) :
    Advances (bytes ++ more) before after := by
  refine ⟨?_, ?_, two.ready⟩
  · rw [two.moved, one.moved, ByteArray.size_append, Nat.add_assoc]
  · rw [ByteArray.append_assoc, two.readable, one.readable]

theorem size_readable (ready : buffer.Ready) : buffer.readable.size = buffer.remaining := by
  have inside := ready.inside
  unfold capacity at inside
  rw [readable, ByteArray.size_extract, Nat.min_eq_left inside, remaining]

def taken (sink : σ → ByteArray → SendAnswer × σ) (peer : σ) (buffer : Buffer) : ByteArray :=
  match sink peer buffer.readable with
  | (.accepts count, _) => buffer.readable.extract 0 count
  | (.fails _, _) => .empty

theorem advances_extract (ready : buffer.Ready) (count : Nat) :
    Advances (buffer.readable.extract 0 count) buffer
      { buffer with position := buffer.position + min count buffer.remaining } := by
  have size : (buffer.readable.extract 0 count).size = min count buffer.remaining := by
    rw [ByteArray.size_extract, size_readable ready, Nat.sub_zero]
  obtain ⟨ordered, inside⟩ := ready
  have stop : min (buffer.position + count) buffer.limit =
      buffer.position + min count buffer.remaining := by
    unfold remaining
    omega
  have within : buffer.position + min count buffer.remaining ≤ buffer.limit := by omega
  refine ⟨by rw [size], ?_, within, inside⟩
  unfold readable
  rw [ByteArray.extract_extract, Nat.add_zero, stop]
  exact (ByteArray.extract_eq_extract_append_extract _ (Nat.le_add_right _ _) within).symm

theorem send_advances {result : Except IoError Nat} (ready : before.Ready)
    (sent : before.send sink peer = (result, after, later)) :
    Advances (taken sink peer before) before after := by
  unfold send at sent
  unfold taken
  cases answer : sink peer before.readable with
  | mk said next =>
      rw [answer] at sent
      cases said with
      | accepts count =>
          cases sent
          exact advances_extract ready count
      | fails error =>
          cases sent
          exact .refl ready

end Buffer

/-- A socket is asked once more after it took something and after it was interrupted. -/
def sendsOn : Except IoError Nat → Bool
  | .ok (_ + 1) => true
  | .error .interrupted => true
  | _ => false

theorem less_of_sendsOn {transport : Transport Net Sock} {buffer : Buffer} {socket : Sock}
    (on : sendsOn (buffer.send transport.send socket).1 = true) :
    (buffer.send transport.send socket).2.1.remaining < buffer.remaining ∨
      (buffer.send transport.send socket).2.1.remaining = buffer.remaining ∧
        transport.patience (buffer.send transport.send socket).2.2 <
          transport.patience socket := by
  cases sent : buffer.send transport.send socket with
  | mk result rest =>
      obtain ⟨after, later⟩ := rest
      rw [sent] at on
      rcases result with error | _ | count
      · cases error with
        | interrupted =>
            obtain ⟨rfl, answer⟩ := Buffer.send_error sent
            exact .inr ⟨rfl, transport.send_interrupted _ _ _ answer⟩
        | _ => cases on
      · cases on
      · have shrinks := Buffer.send_ok sent
        exact .inl (by dsimp only; omega)

/-- The bytes that a socket takes until it is drained, blocked or failed. -/
def accepted (transport : Transport Net Sock) (buffer : Buffer) (socket : Sock) : ByteArray :=
  if buffer.remaining = 0 then .empty
  else
    let bytes := buffer.taken transport.send socket
    let answer := buffer.send transport.send socket
    if _on : sendsOn answer.1 then bytes ++ accepted transport answer.2.1 answer.2.2 else bytes
termination_by (buffer.remaining, transport.patience socket)
decreasing_by
  rcases less_of_sendsOn _on with less | ⟨same, less⟩
  · exact Prod.Lex.left _ _ less
  · rw [same]
    exact Prod.Lex.right _ less

section

variable {transport : Transport Net Sock} {buffer after : Buffer} {socket later : Sock}
  {result : Except IoError Nat}

theorem accepted_of_on (more : buffer.remaining ≠ 0)
    (sent : buffer.send transport.send socket = (result, after, later))
    (on : sendsOn result = true) :
    accepted transport buffer socket =
      buffer.taken transport.send socket ++ accepted transport after later := by
  rw [accepted, if_neg more]
  dsimp only
  rw [sent, dif_pos on]

theorem accepted_of_stops (more : buffer.remaining ≠ 0)
    (sent : buffer.send transport.send socket = (result, after, later))
    (stops : sendsOn result = false) :
    accepted transport buffer socket = buffer.taken transport.send socket := by
  rw [accepted, if_neg more]
  dsimp only
  rw [sent, dif_neg (by rw [stops]; exact Bool.false_ne_true)]

/-- Sending steps over what the socket took, and ends with the buffer drained just when nothing is
left. -/
theorem sendPending_advances (transport : Transport Net Sock) (buffer : Buffer) (socket : Sock)
    (ready : buffer.Ready) :
    Buffer.Advances (accepted transport buffer socket) buffer
        (sendPending transport buffer socket).2.1 ∧
      ((sendPending transport buffer socket).1 = .drained ↔
        (sendPending transport buffer socket).2.1.remaining = 0) := by
  fun_induction sendPending transport buffer socket with
  | case1 buffer socket none =>
      rw [accepted, if_pos none]
      exact ⟨.refl ready, fun _ => none, fun _ => rfl⟩
  | case2 buffer socket more after later sent =>
      have left := (Buffer.send_ok sent).2
      rw [accepted_of_stops more sent rfl]
      refine ⟨Buffer.send_advances ready sent, ?_, ?_⟩
      · intro ended
        cases ended
      · intro none
        exact absurd (left.symm.trans none) more
  | case3 buffer socket more count after later sent ih =>
      have first := Buffer.send_advances ready sent
      obtain ⟨rest, ended⟩ := ih first.ready
      rw [accepted_of_on more sent rfl]
      exact ⟨first.trans rest, ended⟩
  | case4 buffer socket more after later sent =>
      obtain ⟨rfl, _⟩ := Buffer.send_error sent
      rw [accepted_of_stops more sent rfl]
      refine ⟨Buffer.send_advances ready sent, ?_, fun none => absurd none more⟩
      intro ended
      cases ended
  | case5 buffer socket more after later sent ih =>
      have first := Buffer.send_advances ready sent
      obtain ⟨rest, ended⟩ := ih first.ready
      rw [accepted_of_on more sent rfl]
      exact ⟨first.trans rest, ended⟩
  | case6 buffer socket more error after later other other' sent =>
      obtain ⟨rfl, _⟩ := Buffer.send_error sent
      have stops : sendsOn (.error error) = false := by
        cases error with
        | interrupted => exact absurd rfl other'
        | _ => rfl
      rw [accepted_of_stops more sent stops]
      refine ⟨Buffer.send_advances ready sent, ?_, fun none => absurd none more⟩
      intro ended
      cases ended

end

/-! ### Turns -/

namespace Buffer

variable {content bytes more : ByteArray} {before after buffer : Buffer}

/-- A send buffer from which sockets took `bytes`, out of `content`. -/
structure Sends (content bytes : ByteArray) (buffer : Buffer) : Prop where
  position : buffer.position = bytes.size
  whole : bytes ++ buffer.readable = content
  ready : buffer.Ready

theorem Sends.advance (sends : before.Sends content bytes) (advances : Advances more before after) :
    after.Sends content (bytes ++ more) := by
  refine ⟨?_, ?_, advances.ready⟩
  · rw [advances.moved, ByteArray.size_append, ← sends.position]
  · rw [ByteArray.append_assoc, advances.readable, sends.whole]

/-- Turning the buffer around makes what was written readable, and nothing of it is sent. -/
theorem Holds.flip (holds : buffer.Holds content) : buffer.flip.Sends content .empty := by
  refine ⟨rfl, ?_, Nat.zero_le _, holds.inside⟩
  rw [ByteArray.empty_append, ← holds.filled]
  rfl

end Buffer

theorem Batch.Holds.startSending {content : ByteArray} {batch : Batch}
    (holds : batch.Holds content) : batch.startSending.writeBuffer.Sends content .empty := by
  unfold Batch.startSending
  rw [holds.unsent]
  exact holds.buffer.flip

namespace Turn

variable (transport : Transport Net Sock) (turn : Turn Net Sock)

def sendSent : ByteArray :=
  match turn.connection.link with
  | .connected socket => accepted transport turn.batch.writeBuffer socket
  | _ => .empty

def writeSent : ByteArray :=
  match turn.connection.link with
  | .connecting _ => (turn.finishConnect transport).sendSent transport
  | .connected _ => turn.sendSent transport
  | _ => .empty

def startSent : ByteArray := turn.prepare.writeSent transport

def sent (event : Readiness) : ByteArray :=
  if turn.connection.link.isAborted || event.contains .failing || event.contains .timedOut then
    .empty
  else if event.contains .writing then turn.writeSent transport
  else .empty

theorem abort_writeBuffer (cause : AbortCause) :
    (turn.abort transport cause).batch.writeBuffer = turn.batch.writeBuffer := by
  cases aborted : turn.connection.link.isAborted with
  | true => rw [abort_of_aborted aborted]
  | false =>
      rw [abort_batch aborted]
      split <;> rfl

theorem notify_writeBuffer (event : Readiness) :
    (turn.notify transport event).batch.writeBuffer = turn.batch.writeBuffer := by
  unfold notify
  split
  · rfl
  · split
    · rfl
    · dsimp only
      split
      · rfl
      · exact abort_writeBuffer transport _ _

theorem connect_writeBuffer :
    (turn.connect transport).batch.writeBuffer = turn.batch.writeBuffer := by
  unfold connect
  dsimp only
  split
  · exact abort_writeBuffer transport _ _
  · exact abort_writeBuffer transport _ _
  · exact notify_writeBuffer transport _ _

theorem finishConnect_writeBuffer :
    (turn.finishConnect transport).batch.writeBuffer = turn.batch.writeBuffer := by
  unfold finishConnect
  split
  · split
    · exact notify_writeBuffer transport _ _
    · exact abort_writeBuffer transport _ _
    · exact notify_writeBuffer transport _ _
  · rfl

theorem readData_writeBuffer :
    (turn.readData transport).batch.writeBuffer = turn.batch.writeBuffer := by
  unfold readData
  split
  · rename_i socket connected
    have keeps := (Intake.run_keeps transport (turn.intake socket)).writeBuffer
    unfold Turn.intake at keeps
    dsimp only
    split
    · exact keeps
    · exact (notify_writeBuffer transport _ _).trans keeps
    · exact (abort_writeBuffer transport _ _).trans keeps
  · rfl

variable {transport turn} {content bytes : ByteArray}

theorem sendData_sends (sends : turn.batch.writeBuffer.Sends content bytes) :
    (turn.sendData transport).batch.writeBuffer.Sends content
      (bytes ++ turn.sendSent transport) := by
  unfold sendData sendSent
  cases turn.connection.link with
  | connected socket =>
      have later := sends.advance
        (sendPending_advances transport turn.batch.writeBuffer socket sends.ready).1
      dsimp only
      cases ran : sendPending transport turn.batch.writeBuffer socket with
      | mk ended rest =>
          rw [ran] at later
          cases ended with
          | drained => exact later
          | blocked =>
              dsimp only
              rw [notify_writeBuffer]
              exact later
          | failed error =>
              dsimp only
              rw [abort_writeBuffer]
              exact later
  | _ =>
      dsimp only
      rwa [ByteArray.append_empty]

theorem writeData_sends (sends : turn.batch.writeBuffer.Sends content bytes) :
    (turn.writeData transport).batch.writeBuffer.Sends content
      (bytes ++ turn.writeSent transport) := by
  unfold writeData writeSent
  cases turn.connection.link with
  | closed =>
      dsimp only
      rwa [connect_writeBuffer, ByteArray.append_empty]
  | connecting socket =>
      rw [← finishConnect_writeBuffer transport turn] at sends
      exact sendData_sends sends
  | connected socket => exact sendData_sends sends
  | aborted =>
      dsimp only
      rwa [ByteArray.append_empty]

theorem start_sends (holds : turn.batch.Holds content) :
    (turn.start transport).batch.writeBuffer.Sends content (turn.startSent transport) := by
  have entered : turn.prepare.batch.writeBuffer.Sends content .empty := holds.startSending
  have written := @writeData_sends _ _ transport _ _ _ entered
  rw [ByteArray.empty_append] at written
  unfold start startSent
  dsimp only
  split
  · rwa [notify_writeBuffer]
  · exact written

theorem handle_sends (sends : turn.batch.writeBuffer.Sends content bytes) (event : Readiness) :
    (turn.handle transport event).batch.writeBuffer.Sends content
      (bytes ++ turn.sent transport event) := by
  unfold sent
  rcases handle_cases transport turn event with ⟨stopped, cause, gives⟩ | ⟨going, serves⟩
  · rw [gives, if_pos stopped, abort_writeBuffer, ByteArray.append_empty]
    exact sends
  · have written : (if event.contains .writing then turn.writeData transport else
        turn).batch.writeBuffer.Sends content
          (bytes ++ if event.contains .writing then turn.writeSent transport else .empty) := by
      by_cases writes : event.contains .writing = true
      · rw [if_pos writes, if_pos writes]
        exact writeData_sends sends
      · rw [if_neg writes, if_neg writes, ByteArray.append_empty]
        exact sends
    rw [serves, going, if_neg Bool.false_ne_true]
    dsimp only
    by_cases reads : event.contains .reading = true
    · rw [if_pos reads, readData_writeBuffer]
      exact written
    · rw [if_neg reads]
      exact written

end Turn

/-! ### Rounds -/

namespace Round

variable (transport : Transport Net Sock) (round : Round Net Sock)

/-- The round when it is a pair's first turn: the pairs before it had theirs. -/
def atStart {Place : Type → Type} [Serving Place] (transport : Transport Net Sock)
    (round : Round Net Sock Place) (ordinal : Nat) : Round Net Sock Place :=
  (List.range ordinal).foldl
    (fun round ordinal => round.turnIfPending ordinal (Serving.start transport)) round

def startSent (ordinal : Nat) : ByteArray :=
  match round.pairs[ordinal]? with
  | none => .empty
  | some pair =>
      if pair.batch.hasPending then
        ((round.atStart transport ordinal).seat ordinal pair).startSent transport
      else .empty

def sentIn (ordinal : Nat) (steps : List (Step Net)) : ByteArray :=
  round.startSent transport ordinal ++
    (round.startAll transport).tally transport (Turn.sent transport) ordinal steps

def sent (timeout : Duration) (ordinal : Nat) : ByteArray :=
  round.sentIn transport ordinal (round.steps transport timeout)

variable {transport round} {ordinal : Nat} {pair : Pair Sock} {content : ByteArray}

theorem atStart_own (round : Round Net Sock) (ordinal : Nat) :
    (round.atStart transport ordinal).pairs[ordinal]? = round.pairs[ordinal]? :=
  @foldl_others _ _ _ (fun round ordinal => round.pairs[ordinal]?) _
    (fun _ _ _ apart => turnIfPending_others apart _) _ _
    (fun member => Nat.lt_irrefl _ (List.mem_range.mp member)) round

theorem startAll_own (inside : ordinal < round.pairs.length) :
    (round.startAll transport).pairs[ordinal]? =
      ((round.atStart transport ordinal).turnIfPending ordinal
        (Turn.start transport)).pairs[ordinal]? := by
  obtain ⟨later, length⟩ := Nat.exists_eq_add_of_lt inside
  have split : List.range round.pairs.length =
      List.range (ordinal + 1) ++ (List.range later).map (ordinal + 1 + ·) := by
    rw [length, Nat.add_right_comm, List.range_add]
  have behind : ordinal ∉ (List.range later).map (ordinal + 1 + ·) := by
    intro member
    obtain ⟨other, _, same⟩ := List.mem_map.mp member
    omega
  unfold startAll eachPair
  rw [split, List.foldl_append, List.range_succ, List.foldl_append]
  exact @foldl_others _ _ _ (fun round ordinal => round.pairs[ordinal]?) _
    (fun _ _ _ apart => turnIfPending_others apart _) _ _ behind _

theorem startAll_sends (present : round.pairs[ordinal]? = some pair)
    (busy : pair.batch.hasPending = true) (holds : pair.batch.Holds content) :
    ∃ begun, (round.startAll transport).pairs[ordinal]? = some begun ∧
      begun.batch.writeBuffer.Sends content (round.startSent transport ordinal) := by
  have inside := (List.getElem?_eq_some_iff.mp present).1
  have there := (@atStart_own _ _ transport round ordinal).trans present
  rw [startAll_own inside, turnIfPending_of_pending ((isPending_eq there).trans busy),
    turn_own there]
  refine ⟨_, rfl, ?_⟩
  unfold startSent
  rw [present]
  dsimp only
  rw [if_pos busy]
  exact @Turn.start_sends _ _ transport ((round.atStart transport ordinal).seat ordinal pair) _
    holds

theorem sends_kept :
    Kept transport (Turn.sent transport) fun bytes pair =>
      pair.batch.writeBuffer.Sends content bytes :=
  fun _ event _ _ sends => Turn.handle_sends sends event

theorem replay_sends (present : round.pairs[ordinal]? = some pair)
    (busy : pair.batch.hasPending = true) (holds : pair.batch.Holds content)
    (steps : List (Step Net)) :
    ∃ after, ((round.startAll transport).replay transport steps).pairs[ordinal]? = some after ∧
      after.batch.writeBuffer.Sends content (round.sentIn transport ordinal steps) := by
  obtain ⟨begun, there, sends⟩ := @startAll_sends _ _ transport _ _ _ _ present busy holds
  exact replay_kept sends_kept steps there sends

/-- Nobody takes bytes of a batch without pending commands. -/
theorem sentIn_idle (present : round.pairs[ordinal]? = some pair)
    (idle : pair.batch.hasPending = false) (steps : List (Step Net)) :
    round.sentIn transport ordinal steps = .empty := by
  have none : round.startSent transport ordinal = .empty := by
    unfold startSent
    rw [present]
    dsimp only
    rw [idle]
    rfl
  unfold sentIn
  rw [none]
  exact tally_idle _ (startAll_idle present idle) idle steps

end Round

structure Pair.Sent (transport : Transport Net Sock) (content bytes : ByteArray)
    (pair : Pair Sock) : Prop where
  /-- What was sent and what is left to send are the content. -/
  whole : bytes ++ pair.batch.writeBuffer.readable = content
  position : pair.batch.writeBuffer.position = bytes.size
  /-- Where a socket takes nothing, because it fails or otherwise, nothing changes. -/
  unmoved : ∀ socket,
    (pair.batch.writeBuffer.send transport.send socket).1.toOption.getD 0 = 0 →
      (pair.batch.writeBuffer.send transport.send socket).2.1 = pair.batch.writeBuffer
  drained : ∀ socket, (sendPending transport pair.batch.writeBuffer socket).1 = .drained ↔
    bytes ++ accepted transport pair.batch.writeBuffer socket = content

theorem Buffer.send_unmoved {σ : Type} {buffer : Buffer} (sink : σ → ByteArray → SendAnswer × σ)
    (peer : σ) (nothing : (buffer.send sink peer).1.toOption.getD 0 = 0) :
    (buffer.send sink peer).2.1 = buffer := by
  unfold send at nothing ⊢
  cases answer : sink peer buffer.readable with
  | mk said later =>
      rw [answer] at nothing
      cases said with
      | accepts count =>
          have none : min count buffer.remaining = 0 := nothing
          dsimp only
          rw [none, Nat.add_zero]
      | fails error => rfl

theorem Buffer.Sends.drained {content bytes : ByteArray} {buffer : Buffer}
    (sends : buffer.Sends content bytes) (transport : Transport Net Sock) (socket : Sock) :
    (sendPending transport buffer socket).1 = .drained ↔
      bytes ++ accepted transport buffer socket = content := by
  obtain ⟨advances, ended⟩ := sendPending_advances transport buffer socket sends.ready
  have later := sends.advance advances
  have size := congrArg ByteArray.size later.whole
  rw [ByteArray.size_append, Buffer.size_readable later.ready] at size
  rw [ended]
  constructor
  · intro none
    have empty : (sendPending transport buffer socket).2.1.readable = .empty := by
      rw [← ByteArray.size_eq_zero_iff, Buffer.size_readable later.ready, none]
    rw [← later.whole, empty, ByteArray.append_empty]
  · intro all
    rw [all] at size
    omega

theorem Buffer.Sends.sent {content bytes : ByteArray} {pair : Pair Sock}
    (sends : pair.batch.writeBuffer.Sends content bytes) (transport : Transport Net Sock) :
    pair.Sent transport content bytes :=
  ⟨sends.whole, sends.position, fun socket => Buffer.send_unmoved transport.send socket,
    sends.drained transport⟩

def dripping : Transport Unit Bool where
  dial := fun network _ => (.opened true, network)
  shake := fun socket => (.established, socket)
  send := fun open' _ => if open' then (.accepts 1, false) else (.fails .wouldBlock, true)
  receive := fun socket _ => (.fails .wouldBlock, socket)
  watch := .answering none
  deregister := fun network _ => (none, network)
  hangUp := fun network _ => network
  poll := fun network _ _ => (.ready [(0, .writing)], 0, network)
  patience := fun _ => 0
  send_interrupted := by
    intro socket bytes later failed
    cases socket <;> cases failed
  receive_interrupted := nofun

def Batch.ping : Metered Batch :=
  (Ledger.build { readBufferSize := 1, writeBufferSize := 6 } {}
    [.write ⟨#[80, 73, 78, 71, 13, 10]⟩ 1]).state

def drippingRound : Round Unit Bool :=
  Round.enlist {} () [⟨Connection.new ⟨"nowhere", 6379⟩ 255, Batch.ping.item⟩]

end Fanout
