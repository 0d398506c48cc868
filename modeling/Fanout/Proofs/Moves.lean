import Fanout.Connection.Turn
import Fanout.Proofs.Intake

/-!
What a turn can do, said once. A turn is a sequence of moves, and each move is one use of the
network, of the poller or of the batch; what holds of a turn is shown of every move. A move is
marked with the bytes that the socket delivered in it.
-/

set_option autoImplicit false

namespace Fanout

namespace Link

variable {Sock : Type} {link : Link Sock}

theorem not_aborted_of_socket {socket : Sock} (open' : link.socket? = some socket) :
    link.isAborted = false := by
  cases link with
  | aborted => cases open'
  | _ => rfl

theorem isAborted_withSocket (link : Link Sock) (socket : Sock) :
    (link.withSocket socket).isAborted = link.isAborted := by
  cases link <;> rfl

end Link

namespace Turn

variable {Net Sock : Type} (transport : Transport Net Sock)

inductive Move (before : Turn Net Sock) : ByteArray → Turn Net Sock → Prop where
  | unreachable {dialing : Dialing Sock} {network : Net} {cause : AbortCause}
      (closed : before.connection.link = .closed)
      (dials : transport.dial before.network before.connection.endpoint = (dialing, network)) :
      Move before .empty ({ before with network := network }.abort transport cause)
  | opened {socket : Sock} {network : Net} (closed : before.connection.link = .closed)
      (dials : transport.dial before.network before.connection.endpoint =
        (.opened socket, network)) :
      Move before .empty ({ before with network := network }.withLink (.connecting socket))
  | shaken {socket later : Sock} {handshake : Handshake}
      (connecting : before.connection.link = .connecting socket)
      (shakes : transport.shake socket = (handshake, later)) :
      Move before .empty (before.withSocket later)
  | established {socket later : Sock} (connecting : before.connection.link = .connecting socket)
      (shakes : transport.shake socket = (.established, later)) :
      Move before .empty (before.withLink (.connected later))
  | asked {socket later : Sock} {event : Readiness} {refusal : Option IoError}
      {interests : Interests} (known : before.connection.link.socket? = some socket)
      (asks : before.interests.notify before.ordinal event transport.watch socket =
        .ok (refusal, interests, later)) :
      Move before .empty ({ before with interests := interests }.withSocket later)
  | sent {socket later : Sock} {ended : SendEnd} {buffer : Buffer}
      (connected : before.connection.link = .connected socket)
      (sends : sendPending transport before.batch.writeBuffer socket = (ended, buffer, later)) :
      Move before .empty
        ({ before with batch := { before.batch with writeBuffer := buffer } }.withSocket later)
  | received {socket : Sock} {ended : IntakeEnd} {intake : Intake Sock}
      (connected : before.connection.link = .connected socket)
      (runs : (before.intake socket).run transport = (ended, intake))
      (fine : ∀ cause, ended ≠ .failed cause) :
      Move before ((before.intake socket).heard transport) (before.withIntake intake)
  | lost {socket : Sock} {cause : AbortCause} {intake : Intake Sock}
      (connected : before.connection.link = .connected socket)
      (runs : (before.intake socket).run transport = (.failed cause, intake)) :
      Move before ((before.intake socket).heard transport)
        ((before.withIntake intake).abort transport cause)
  | gaveUp {cause : AbortCause} (alive : before.connection.link.isAborted = false) :
      Move before .empty (before.abort transport cause)
  | broke {socket : Sock} {event : Readiness} {rule : Misuse}
      (known : before.connection.link.socket? = some socket)
      (asks : before.interests.notify before.ordinal event transport.watch socket =
        .error rule) :
      Move before .empty (before.broke rule)

inductive Moves (before : Turn Net Sock) : ByteArray → Turn Net Sock → Prop where
  | refl : Moves before .empty before
  | step {bytes more : ByteArray} {middle after : Turn Net Sock}
      (moves : Moves before bytes middle) (busy : 0 < middle.batch.pending)
      (move : Move transport middle more after) : Moves before (bytes ++ more) after

/-- A turn may go on: replies are missing, or there is nothing more to do. -/
def Engaged (turn : Turn Net Sock) : Prop :=
  turn.connection.link.isAborted = true ∨ 0 < turn.batch.pending

structure Goes (before after : Turn Net Sock) : Prop where
  moves : Moves transport before .empty after
  engaged : after.Engaged

variable {transport} {before middle after turn : Turn Net Sock}

theorem Move.alive {bytes : ByteArray} (move : Move transport before bytes after) :
    before.connection.link.isAborted = false := by
  cases move with
  | unreachable closed dials => rw [closed]; rfl
  | opened closed dials => rw [closed]; rfl
  | shaken connecting shakes => rw [connecting]; rfl
  | established connecting shakes => rw [connecting]; rfl
  | asked known asks => exact Link.not_aborted_of_socket known
  | sent connected sends => rw [connected]; rfl
  | received connected runs fine => rw [connected]; rfl
  | lost connected runs => rw [connected]; rfl
  | gaveUp alive => exact alive
  | broke known asks => exact Link.not_aborted_of_socket known

theorem Moves.trans {bytes more : ByteArray} (first : Moves transport before bytes middle)
    (second : Moves transport middle more after) :
    Moves transport before (bytes ++ more) after := by
  induction second with
  | refl =>
      rw [ByteArray.append_empty]
      exact first
  | step moves busy move ih =>
      rw [← ByteArray.append_assoc]
      exact .step ih busy move

theorem Moves.one {more : ByteArray} (busy : 0 < before.batch.pending)
    (move : Move transport before more after) : Moves transport before more after := by
  have moves := Moves.step .refl busy move
  rwa [ByteArray.empty_append] at moves

theorem Goes.refl (engaged : turn.Engaged) : Goes transport turn turn := ⟨.refl, engaged⟩

theorem Goes.trans (first : Goes transport before middle) (second : Goes transport middle after) :
    Goes transport before after := by
  refine ⟨?_, second.engaged⟩
  have moves := first.moves.trans second.moves
  rwa [ByteArray.append_empty] at moves

theorem Goes.one (busy : 0 < before.batch.pending) (move : Move transport before .empty after)
    (engaged : after.Engaged) : Goes transport before after :=
  ⟨.one busy move, engaged⟩

theorem Engaged.busy (engaged : turn.Engaged) (alive : turn.connection.link.isAborted = false) :
    0 < turn.batch.pending := by
  rcases engaged with aborted | busy
  · rw [aborted] at alive
    cases alive
  · exact busy

theorem abort_aborted (transport : Transport Net Sock) (turn : Turn Net Sock)
    (cause : AbortCause) : (turn.abort transport cause).connection.link.isAborted = true := by
  unfold abort
  split
  · assumption
  · rfl

/-- Who gave up already does not do it again. -/
theorem abort_of_aborted (aborted : turn.connection.link.isAborted = true) (cause : AbortCause) :
    turn.abort transport cause = turn := by
  unfold abort
  rw [if_pos aborted]

theorem dropSocket_batch (transport : Transport Net Sock) (turn : Turn Net Sock) :
    (turn.dropSocket transport).batch = turn.batch := by
  unfold dropSocket
  split <;> rfl

/-- Giving up answers what is pending, but not in a batch that was aborted before. -/
theorem abort_batch (alive : turn.connection.link.isAborted = false) (cause : AbortCause) :
    (turn.abort transport cause).batch =
      if turn.batch.isAborted then turn.batch
      else turn.batch.failPending (turn.abortText cause) := by
  unfold abort
  rw [alive, if_neg Bool.false_ne_true]
  exact dropSocket_batch _ _

theorem abort_goes (engaged : turn.Engaged) (cause : AbortCause) :
    Goes transport turn (turn.abort transport cause) := by
  cases aborted : turn.connection.link.isAborted with
  | true =>
      rw [abort_of_aborted aborted]
      exact .refl engaged
  | false => exact .one (engaged.busy aborted) (.gaveUp aborted) (.inl (abort_aborted _ _ _))

theorem notify_goes (engaged : turn.Engaged) (event : Readiness) :
    Goes transport turn (turn.notify transport event) := by
  unfold notify
  cases known : turn.connection.link.socket? with
  | none => exact .refl engaged
  | some socket =>
      dsimp only
      have busy := engaged.busy (Link.not_aborted_of_socket known)
      cases asks : turn.interests.notify turn.ordinal event transport.watch socket with
      | error rule => exact .one busy (.broke known asks) (.inr busy)
      | ok answer =>
          obtain ⟨refusal, interests, later⟩ := answer
          have asked := Goes.one busy (.asked known asks) (.inr busy)
          cases refusal with
          | none => exact asked
          | some error => exact asked.trans (abort_goes asked.engaged _)

theorem sendData_goes (engaged : turn.Engaged) :
    Goes transport turn (turn.sendData transport) := by
  unfold sendData
  split
  · rename_i socket connected
    have busy := engaged.busy (by rw [connected]; rfl)
    cases sends : sendPending transport turn.batch.writeBuffer socket with
    | mk ended rest =>
        obtain ⟨buffer, later⟩ := rest
        have sent := Goes.one busy (.sent connected sends) (.inr busy)
        cases ended with
        | drained => exact sent
        | blocked => exact sent.trans (notify_goes sent.engaged _)
        | failed error => exact sent.trans (abort_goes sent.engaged _)
  · exact .refl engaged

theorem connect_goes (busy : 0 < turn.batch.pending) (closed : turn.connection.link = .closed) :
    Goes transport turn (turn.connect transport) := by
  unfold connect
  cases dials : transport.dial turn.network turn.connection.endpoint with
  | mk dialing network =>
      cases dialing with
      | unresolved => exact .one busy (.unreachable closed dials) (.inl (abort_aborted _ _ _))
      | refused error => exact .one busy (.unreachable closed dials) (.inl (abort_aborted _ _ _))
      | opened socket =>
          have opened := Goes.one busy (.opened closed dials) (.inr busy)
          exact opened.trans (notify_goes opened.engaged _)

theorem finishConnect_goes (engaged : turn.Engaged) :
    Goes transport turn (turn.finishConnect transport) := by
  unfold finishConnect
  split
  · rename_i socket connecting
    have busy := engaged.busy (by rw [connecting]; rfl)
    cases shakes : transport.shake socket with
    | mk handshake later =>
        cases handshake with
        | inProgress =>
            have shaken := Goes.one busy (.shaken connecting shakes) (.inr busy)
            exact shaken.trans (notify_goes shaken.engaged _)
        | failed error =>
            have shaken := Goes.one busy (.shaken connecting shakes) (.inr busy)
            exact shaken.trans (abort_goes shaken.engaged _)
        | established =>
            have established := Goes.one busy (.established connecting shakes) (.inr busy)
            exact established.trans (notify_goes established.engaged _)
  · exact .refl engaged

theorem writeData_goes (engaged : turn.Engaged) :
    Goes transport turn (turn.writeData transport) := by
  unfold writeData
  split
  · rename_i closed
    exact connect_goes (engaged.busy (by rw [closed]; rfl)) closed
  · have finished := @finishConnect_goes _ _ transport _ engaged
    exact finished.trans (sendData_goes finished.engaged)
  · exact sendData_goes engaged
  · exact .refl engaged

theorem readData_connected (transport : Transport Net Sock) {socket : Sock}
    (connected : turn.connection.link = .connected socket) :
    turn.readData transport =
      match ((turn.intake socket).run transport).1 with
      | .answered => turn.withIntake ((turn.intake socket).run transport).2
      | .blocked =>
          (turn.withIntake ((turn.intake socket).run transport).2).notify transport .reading
      | .failed cause =>
          (turn.withIntake ((turn.intake socket).run transport).2).abort transport cause := by
  unfold readData
  split
  · rename_i other opened
    cases connected.symm.trans opened
    rfl
  · rename_i unconnected
    exact absurd connected (unconnected socket)

def readHeard (transport : Transport Net Sock) (turn : Turn Net Sock) : ByteArray :=
  match turn.connection.link with
  | .connected socket => (turn.intake socket).heard transport
  | _ => .empty

theorem readData_moves (engaged : turn.Engaged) :
    Moves transport turn (turn.readHeard transport) (turn.readData transport) := by
  unfold readData readHeard
  cases connected : turn.connection.link with
  | connected socket =>
      have busy := engaged.busy (by rw [connected]; rfl)
      have answered := Intake.answered_iff transport (turn.intake socket)
      dsimp only
      cases runs : (turn.intake socket).run transport with
      | mk ended intake =>
          rw [runs] at answered
          cases ended with
          | answered => exact .one busy (.received connected runs nofun)
          | failed cause => exact .one busy (.lost connected runs)
          | blocked =>
              have received := Moves.one busy (.received connected runs nofun)
              have missing : 0 < intake.batch.pending :=
                Nat.pos_of_ne_zero fun none => nomatch answered.mpr none
              have notified := @notify_goes _ _ transport (turn.withIntake intake) (.inr missing)
                .reading
              have moves := received.trans notified.moves
              rwa [ByteArray.append_empty] at moves
  | _ => exact .refl

def heard (transport : Transport Net Sock) (turn : Turn Net Sock) (event : Readiness) : ByteArray :=
  if turn.connection.link.isAborted || event.contains .failing || event.contains .timedOut then
    .empty
  else
    let written := if event.contains .writing then turn.writeData transport else turn
    if event.contains .reading then written.readHeard transport else .empty

/-- Events either make the pair give up, with nothing written or read, or they let it write and then
read. -/
theorem handle_cases (transport : Transport Net Sock) (turn : Turn Net Sock) (event : Readiness) :
    ((turn.connection.link.isAborted || event.contains .failing || event.contains .timedOut) =
        true ∧ ∃ cause, turn.handle transport event = turn.abort transport cause) ∨
      ((turn.connection.link.isAborted || event.contains .failing || event.contains .timedOut) =
          false ∧
        turn.handle transport event =
          let written := if event.contains .writing then turn.writeData transport else turn
          if event.contains .reading then written.readData transport else written) := by
  unfold handle
  cases aborted : turn.connection.link.isAborted with
  | true => exact .inl ⟨rfl, .event, (abort_of_aborted aborted _).symm⟩
  | false =>
      cases event.contains .failing with
      | true => exact .inl ⟨rfl, _, rfl⟩
      | false =>
          cases event.contains .timedOut with
          | true => exact .inl ⟨rfl, _, rfl⟩
          | false => exact .inr ⟨rfl, rfl⟩

theorem handle_moves (busy : 0 < turn.batch.pending) (event : Readiness) :
    Moves transport turn (turn.heard transport event) (turn.handle transport event) := by
  have engaged : turn.Engaged := .inr busy
  unfold heard
  rcases handle_cases transport turn event with ⟨stopped, cause, gives⟩ | ⟨going, serves⟩
  · rw [gives, if_pos stopped]
    exact (abort_goes engaged cause).moves
  · have written : Goes transport turn
        (if event.contains .writing then turn.writeData transport else turn) := by
      by_cases writes : event.contains .writing = true
      · rw [if_pos writes]
        exact writeData_goes engaged
      · rw [if_neg writes]
        exact .refl engaged
    rw [serves, going, if_neg Bool.false_ne_true]
    dsimp only
    by_cases reads : event.contains .reading = true
    · rw [if_pos reads, if_pos reads]
      have moves := written.moves.trans (readData_moves written.engaged)
      rwa [ByteArray.empty_append] at moves
    · rw [if_neg reads, if_neg reads]
      exact written.moves

theorem prepare_engaged (busy : 0 < turn.batch.pending) : turn.prepare.Engaged := by
  have same : turn.prepare.batch.pending = turn.batch.pending := by
    unfold prepare Batch.startSending
    dsimp only
    split <;> rfl
  rw [← same] at busy
  exact .inr busy

theorem start_moves (busy : 0 < turn.batch.pending) :
    Moves transport turn.prepare .empty (turn.start transport) := by
  have written := @writeData_goes _ _ transport _ (prepare_engaged busy)
  unfold start
  dsimp only
  split
  · exact (written.trans (notify_goes written.engaged _)).moves
  · exact written.moves

end Turn

end Fanout
