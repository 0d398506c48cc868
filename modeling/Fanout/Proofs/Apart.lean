import Fanout.Connection.Apart
import Fanout.Proofs.Lifecycle

/-!
A connection that keeps its socket and its state apart does in every turn what one does that has
them in one: none of the exits of its turns leaves them out of step, also when it gives up in the
middle of another change. So every round of such connections is a round of the others, and what
holds of their ways holds of these.
-/

set_option autoImplicit false

namespace Fanout

variable {Net Sock : Type} {transport : Transport Net Sock}

def Link.apart : Link Sock → Apart Sock
  | .closed => { stream := none, state := .closed }
  | .connecting socket => { stream := some socket, state := .connecting }
  | .connected socket => { stream := some socket, state := .connected }
  | .aborted => { stream := none, state := .aborted }

theorem Link.apart_aborted (link : Link Sock) :
    link.apart.state = .aborted ↔ link.isAborted = true := by
  cases link <;> simp [Link.apart, Link.isAborted]

theorem Link.apart_connecting (link : Link Sock) :
    link.apart.state = .connecting ↔ link.isConnecting = true := by
  cases link <;> simp [Link.apart, Link.isConnecting]

def Connection.apart (connection : Connection Sock) : Connection Sock Apart :=
  { endpoint := connection.endpoint
    link := connection.link.apart
    parser := connection.parser
    maxErrorLength := connection.maxErrorLength }

/-! ### Turns -/

namespace Turn

def apart (turn : Turn Net Sock) : Turn Net Sock Apart :=
  { network := turn.network
    interests := turn.interests
    memory := turn.memory
    ordinal := turn.ordinal
    connection := turn.connection.apart
    batch := turn.batch
    breach := turn.breach }

variable (transport) (turn : Turn Net Sock)

theorem stream_apart : turn.apart.connection.link.stream = turn.connection.link.socket? := by
  obtain ⟨_, _, _, _, ⟨_, link, _, _⟩, _, _⟩ := turn
  cases link <;> rfl

theorem state_apart {link : Link Sock} (known : turn.connection.link = link) :
    turn.apart.connection.link.state = link.apart.state := by
  rw [← known]
  rfl

theorem setStream_apart {first : Sock} (known : turn.connection.link.socket? = some first)
    (socket : Sock) :
    Apart.setStream turn.apart (some socket) = (turn.withSocket socket).apart := by
  obtain ⟨_, _, _, _, ⟨_, link, _, _⟩, _, _⟩ := turn
  cases link with
  | closed => cases known
  | connecting first => rfl
  | connected first => rfl
  | aborted => cases known

theorem abort_apart (cause : AbortCause) :
    Apart.abort transport turn.apart cause = (turn.abort transport cause).apart := by
  obtain ⟨_, _, _, _, ⟨_, link, _, _⟩, _, _⟩ := turn
  cases link with
  | closed => rfl
  | connecting socket => rfl
  | connected socket => rfl
  | aborted => rfl

theorem notify_apart (event : Readiness) :
    Apart.notify transport turn.apart event = (turn.notify transport event).apart := by
  unfold Apart.notify notify
  rw [stream_apart]
  cases known : turn.connection.link.socket? with
  | none => rfl
  | some socket =>
      have same : turn.apart.interests.notify turn.apart.ordinal event transport.watch socket =
        turn.interests.notify turn.ordinal event transport.watch socket := rfl
      dsimp only
      rw [same]
      cases turn.interests.notify turn.ordinal event transport.watch socket with
      | error rule => rfl
      | ok answer =>
          obtain ⟨refusal, interests, later⟩ := answer
          have asked := @setStream_apart _ _ { turn with interests := interests } _ known later
          cases refusal with
          | none => exact asked
          | some error =>
              rw [← abort_apart, ← asked]
              rfl

theorem connect_apart (closed : turn.connection.link = .closed) :
    Apart.connect transport turn.apart = (false, (turn.connect transport).apart) := by
  have missing : turn.apart.connection.link.stream = none := by
    rw [stream_apart, closed]
    rfl
  have same : transport.dial turn.apart.network turn.apart.connection.endpoint =
    transport.dial turn.network turn.connection.endpoint := rfl
  unfold Apart.connect connect
  rw [same]
  obtain ⟨dialing, network⟩ := transport.dial turn.network turn.connection.endpoint
  cases dialing with
  | unresolved =>
      dsimp only
      rw [← abort_apart]
      rfl
  | refused error =>
      dsimp only
      rw [← abort_apart]
      rfl
  | opened socket =>
      dsimp only
      rw [← notify_apart]
      unfold Apart.replaceStream
      dsimp only
      rw [missing]
      rfl

theorem abort_state (cause : AbortCause) :
    (turn.abort transport cause).apart.connection.link.state = .aborted :=
  congrArg (fun link => link.apart.state) (abort_link transport turn cause)

/-- To ask for events leaves a connection where it is, or the poller refuses. -/
theorem notify_state (event : Readiness) :
    (turn.notify transport event).apart.connection.link.state =
        turn.apart.connection.link.state ∨
      (turn.notify transport event).apart.connection.link.state = .aborted := by
  unfold notify
  split
  · exact .inl rfl
  · rename_i socket known
    split
    · exact .inl rfl
    · rename_i refusal interests later asks
      cases refusal with
      | some error => exact .inr (abort_state transport _ _)
      | none =>
          left
          rw [← @setStream_apart _ _ { turn with interests := interests } _ known later]
          rfl

/-- One may go on writing just when the handshake led to a connection. -/
theorem finishConnect_apart {socket : Sock}
    (connecting : turn.connection.link = .connecting socket) :
    (Apart.finishConnect transport turn.apart).2 = (turn.finishConnect transport).apart ∧
      ((Apart.finishConnect transport turn.apart).1 = true ↔
        (turn.finishConnect transport).apart.connection.link.state = .connected) := by
  have known : turn.connection.link.socket? = some socket := by
    rw [connecting]
    rfl
  have open' : turn.apart.connection.link.stream = some socket := by rw [stream_apart, known]
  unfold Apart.finishConnect finishConnect
  rw [open', connecting]
  dsimp only
  obtain ⟨handshake, later⟩ := transport.shake socket
  have shaken := setStream_apart turn known later
  cases handshake with
  | failed error =>
      dsimp only
      rw [shaken, abort_apart, abort_state]
      exact ⟨rfl, by decide⟩
  | inProgress =>
      have same : (turn.withSocket later).apart.connection.link.state = .connecting := by
        rw [← shaken]
        unfold apart Connection.apart
        rw [connecting]
        rfl
      dsimp only
      rw [shaken, notify_apart]
      rcases notify_state transport (turn.withSocket later) .writing with kept | gone
      · rw [kept, same]
        exact ⟨rfl, by decide⟩
      · rw [gone]
        exact ⟨rfl, by decide⟩
  | established =>
      have connected : Apart.setState (turn.withSocket later).apart .connected =
          (turn.withLink (.connected later)).apart := by
        unfold withSocket
        rw [connecting]
        rfl
      dsimp only
      rw [shaken, connected, notify_apart]
      exact ⟨rfl, decide_eq_true_iff⟩

theorem connected_of_state (state : turn.apart.connection.link.state = .connected) :
    ∃ socket, turn.connection.link = .connected socket := by
  cases link : turn.connection.link with
  | connected socket => exact ⟨socket, rfl⟩
  | closed => cases (state_apart turn link).symm.trans state
  | connecting socket => cases (state_apart turn link).symm.trans state
  | aborted => cases (state_apart turn link).symm.trans state

/-- Nothing is sent unless there is a connection. -/
theorem sendData_apart :
    (if turn.apart.connection.link.state ≠ .connected then turn.apart
      else Apart.sendData transport turn.apart) = (turn.sendData transport).apart := by
  by_cases state : turn.apart.connection.link.state = .connected
  · obtain ⟨socket, connected⟩ := connected_of_state turn state
    have known : turn.connection.link.socket? = some socket := by
      rw [connected]
      rfl
    have open' : turn.apart.connection.link.stream = some socket := by rw [stream_apart, known]
    have same : sendPending transport turn.apart.batch.writeBuffer socket =
      sendPending transport turn.batch.writeBuffer socket := rfl
    rw [if_neg (not_not_intro state)]
    unfold Apart.sendData sendData
    rw [open', connected]
    dsimp only
    rw [same]
    obtain ⟨ended, buffer, later⟩ := sendPending transport turn.batch.writeBuffer socket
    have sent := @setStream_apart _ _
      { turn with batch := { turn.batch with writeBuffer := buffer } } _ known later
    cases ended with
    | drained => exact sent
    | blocked =>
        dsimp only
        rw [← notify_apart, ← sent]
        rfl
    | failed error =>
        dsimp only
        rw [← abort_apart, ← sent]
        rfl
  · have unsent : turn.sendData transport = turn := by
      unfold sendData
      split
      · rename_i socket connected
        exact (state (state_apart turn connected)).elim
      · rfl
    rw [if_pos state, unsent]

theorem writeData_apart :
    Apart.writeData transport turn.apart = (turn.writeData transport).apart := by
  unfold Apart.writeData writeData
  cases link : turn.connection.link with
  | closed =>
      have state : turn.apart.connection.link.state = .closed := state_apart turn link
      rw [if_pos state, connect_apart transport turn link]
      rfl
  | connecting socket =>
      have state : turn.apart.connection.link.state = .connecting := state_apart turn link
      have unclosed : turn.apart.connection.link.state ≠ .closed := by
        rw [state]
        decide
      obtain ⟨same, going⟩ := finishConnect_apart transport turn link
      have sent := sendData_apart transport (turn.finishConnect transport)
      rw [if_neg unclosed]
      dsimp only
      rw [if_pos state, if_neg (by decide), same]
      by_cases connected : (turn.finishConnect transport).apart.connection.link.state = .connected
      · rw [going.mpr connected]
        exact sent
      · rw [if_pos connected] at sent
        rw [Bool.eq_false_iff.mpr (mt going.mp connected)]
        exact sent
  | connected socket =>
      have state : turn.apart.connection.link.state = .connected := state_apart turn link
      have unclosed : turn.apart.connection.link.state ≠ .closed := by
        rw [state]
        decide
      have beyond : turn.apart.connection.link.state ≠ .connecting := by
        rw [state]
        decide
      rw [if_neg unclosed]
      dsimp only
      rw [if_neg beyond]
      exact sendData_apart transport turn
  | aborted =>
      have state : turn.apart.connection.link.state = .aborted := state_apart turn link
      simp [state]

theorem withIntake_apart {socket : Sock} (connected : turn.connection.link = .connected socket)
    (intake : Intake Sock) :
    Apart.setStream { turn.apart with
      memory := intake.memory
      batch := intake.batch
      connection := { turn.apart.connection with parser := intake.parser }
      breach := turn.apart.breach.or intake.breach } (some intake.socket) =
        (turn.withIntake intake).apart := by
  unfold apart Connection.apart
  rw [connected]
  rfl

/-- Nothing is received unless there is a connection. -/
theorem readData_of_state (state : turn.apart.connection.link.state ≠ .connected) :
    turn.readData transport = turn := by
  unfold readData
  split
  · rename_i socket connected
    exact (state (state_apart turn connected)).elim
  · rfl

theorem readData_apart :
    Apart.readData transport turn.apart = (turn.readData transport).apart := by
  unfold Apart.readData
  by_cases state : turn.apart.connection.link.state = .connected
  · obtain ⟨socket, connected⟩ := connected_of_state turn state
    have known : turn.connection.link.socket? = some socket := by
      rw [connected]
      rfl
    have open' : turn.apart.connection.link.stream = some socket := by rw [stream_apart, known]
    have same : (turn.apart.intake socket).run transport = (turn.intake socket).run transport := rfl
    rw [if_neg (not_not_intro state), open', readData_connected transport connected]
    dsimp only
    rw [same]
    obtain ⟨ended, intake⟩ := (turn.intake socket).run transport
    dsimp only
    rw [withIntake_apart turn connected]
    cases ended with
    | answered => rfl
    | blocked => exact notify_apart transport _ _
    | failed cause => exact abort_apart transport _ _
  · rw [if_pos state, readData_of_state transport turn state]

theorem prepare_apart : Apart.prepare turn.apart = turn.prepare.apart := by
  obtain ⟨_, _, _, _, ⟨_, link, _, _⟩, _, _⟩ := turn
  cases link <;> rfl

theorem leave_apart : Apart.leave transport turn.apart = (turn.leave transport).apart := by
  obtain ⟨_, _, _, _, ⟨_, link, _, _⟩, _, _⟩ := turn
  cases link <;> rfl

theorem start_apart : Apart.start transport turn.apart = (turn.start transport).apart := by
  unfold Apart.start start
  rw [prepare_apart, writeData_apart]
  dsimp only
  split
  · rename_i state
    obtain ⟨socket, connected⟩ := connected_of_state _ state
    rw [connected]
    exact notify_apart transport _ _
  · rename_i state
    split
    · rename_i socket connected
      exact (state (state_apart _ connected)).elim
    · rfl

theorem handle_apart (event : Readiness) :
    Apart.handle transport turn.apart event = (turn.handle transport event).apart := by
  have aborted : turn.apart.connection.link.state = .aborted ↔
      turn.connection.link.isAborted = true := Link.apart_aborted turn.connection.link
  have connecting : turn.apart.connection.link.state = .connecting ↔
      turn.connection.link.isConnecting = true := Link.apart_connecting turn.connection.link
  unfold Apart.handle handle
  simp only [aborted, connecting]
  split
  · rfl
  · split
    · exact abort_apart transport _ _
    · split
      · exact abort_apart transport _ _
      · by_cases writes : event.contains .writing = true
        · simp only [if_pos writes, writeData_apart, readData_apart]
          split <;> rfl
        · simp only [if_neg writes, readData_apart]
          split <;> rfl

end Turn

theorem Connection.close_apart (connection : Connection Sock) (network : Net) :
    Apart.close transport connection.apart network =
      ((connection.close transport network).1.apart, (connection.close transport network).2) := by
  obtain ⟨_, link, _, _⟩ := connection
  cases link <;> rfl

/-! ### Rounds -/

def Pair.apart (pair : Pair Sock) : Pair Sock Apart := ⟨pair.connection.apart, pair.batch⟩

namespace Round

def apart (round : Round Net Sock) : Round Net Sock Apart :=
  { engine := round.engine
    network := round.network
    pairs := round.pairs.map Pair.apart
    interests := round.interests
    breach := round.breach }

variable (transport) (round : Round Net Sock)

theorem pair_apart (ordinal : Nat) :
    round.apart.pairs[ordinal]? = round.pairs[ordinal]?.map Pair.apart :=
  List.getElem?_map

theorem length_apart : round.apart.pairs.length = round.pairs.length := List.length_map _

section Turns

variable {act : Turn Net Sock → Turn Net Sock} {other : Turn Net Sock Apart → Turn Net Sock Apart}

theorem turn_apart (same : ∀ turn, other turn.apart = (act turn).apart) (ordinal : Nat) :
    round.apart.turn ordinal other = (round.turn ordinal act).apart := by
  unfold turn
  rw [pair_apart]
  cases round.pairs[ordinal]? with
  | none => rfl
  | some pair =>
      have acted : other (round.apart.seat ordinal pair.apart) =
        (act (round.seat ordinal pair)).apart := same (round.seat ordinal pair)
      unfold seat at acted
      rw [Option.map_some]
      dsimp only
      rw [acted]
      unfold apart
      rw [List.map_set]
      rfl

theorem isPending_apart (ordinal : Nat) :
    round.apart.isPending ordinal = round.isPending ordinal := by
  unfold isPending
  rw [pair_apart, Option.map_map]
  rfl

theorem turnIfPending_apart (same : ∀ turn, other turn.apart = (act turn).apart) (ordinal : Nat) :
    round.apart.turnIfPending ordinal other = (round.turnIfPending ordinal act).apart := by
  unfold turnIfPending
  rw [isPending_apart, turn_apart round same]
  split <;> rfl

end Turns

theorem atStart_apart (count : Nat) :
    round.apart.atStart transport count = (round.atStart transport count).apart :=
  List.foldl_hom apart fun round => turnIfPending_apart round (Turn.start_apart transport)

theorem startAll_apart : round.apart.startAll transport = (round.startAll transport).apart := by
  unfold startAll eachPair
  rw [length_apart]
  exact atStart_apart transport round round.pairs.length

theorem deliver_apart (event : Nat × Readiness) :
    round.apart.deliver transport event = (round.deliver transport event).apart := by
  have served := @turnIfPending_apart _ _ (round.dropHit event)
    (fun turn => turn.handle transport (round.hit event))
    (fun turn => Apart.handle transport turn (round.hit event))
    (fun turn => Turn.handle_apart transport turn (round.hit event)) event.1
  rw [deliver_eq]
  change (if (round.hit event).isEmpty then round.apart.dropHit event
    else (round.apart.dropHit event).turnIfPending event.1 fun turn =>
      Apart.handle transport turn (round.hit event)) = _
  split
  · rfl
  · exact served

theorem deliverAll_apart (events : List (Nat × Readiness)) :
    round.apart.deliverAll transport events = (round.deliverAll transport events).apart :=
  List.foldl_hom apart (deliver_apart transport)

theorem dispatch_apart (event : Readiness) (ordinal : Nat) :
    (round.apart.dropWanted ordinal).turnIfPending ordinal
        (fun turn => Serving.handle transport turn event) =
      ((round.dropWanted ordinal).turnIfPending ordinal
        fun turn => Serving.handle transport turn event).apart :=
  turnIfPending_apart (round.dropWanted ordinal)
    (fun turn => Turn.handle_apart transport turn event) ordinal

theorem dispatchAll_apart (event : Readiness) :
    round.apart.dispatchAll transport event = (round.dispatchAll transport event).apart := by
  unfold dispatchAll eachPair
  rw [length_apart]
  exact List.foldl_hom apart fun round => dispatch_apart transport round event

theorem anyPending_apart : round.apart.anyPending = round.anyPending := List.any_map

theorem watched_apart : round.apart.watched = round.watched := by
  have sockets : ∀ pair : Pair Sock,
      Serving.socket? pair.apart.connection.link = Serving.socket? pair.connection.link := by
    intro pair
    cases link : pair.connection.link <;> simp [Pair.apart, Connection.apart, link] <;> rfl
  unfold watched
  rw [length_apart]
  congr 1
  funext ordinal
  rw [pair_apart]
  cases round.pairs[ordinal]? with
  | none => rfl
  | some pair =>
      rw [Option.map_some]
      dsimp only [bind, Option.bind_some]
      rw [sockets]
      rfl

theorem interests_apart : round.apart.interests = round.interests := rfl

theorem network_apart : round.apart.network = round.network := rfl

/-- The poller sees the same sockets, so it wakes the round for the same events. -/
theorem loop_apart (remaining : Nat) :
    round.apart.loop transport remaining =
      ((round.loop transport remaining).1, (round.loop transport remaining).2.apart) := by
  fun_induction loop transport round remaining with
  | case1 round remaining settled =>
      rw [loop, interests_apart, anyPending_apart, if_pos settled]
  | case2 round going =>
      rw [loop, interests_apart, anyPending_apart, if_neg going, dif_pos rfl, dispatchAll_apart]
  | case3 round remaining going more error passed network polled failed =>
      have swept := dispatchAll_apart transport { round with network := network } .failing
      rw [loop, interests_apart, anyPending_apart, if_neg going, dif_neg more, network_apart,
        watched_apart, polled]
      exact congrArg _ swept
  | case4 round remaining going more passed network polled ih =>
      rw [loop, interests_apart, anyPending_apart, if_neg going, dif_neg more, network_apart,
        watched_apart, polled]
      exact ih
  | case5 round remaining going more events passed network polled ih =>
      have delivered := deliverAll_apart transport { round with network := network } events
      rw [loop, interests_apart, anyPending_apart, if_neg going, dif_neg more, network_apart,
        watched_apart, polled]
      rw [← ih]
      exact congrArg (loop transport · _) delivered

theorem leave_apart (ordinal : Nat) :
    round.apart.turn ordinal (Serving.leave transport) =
      (round.turn ordinal (Serving.leave transport)).apart :=
  turn_apart round (Turn.leave_apart transport) ordinal

theorem finishAll_apart :
    round.apart.finishAll transport = (round.finishAll transport).apart := by
  unfold finishAll eachPair
  rw [length_apart]
  exact List.foldl_hom apart (leave_apart transport)

theorem record_apart (outcome : Outcome) :
    round.apart.record outcome = (round.record outcome).apart := by
  cases outcome <;> rfl

theorem allowed_apart (timeout : Duration) :
    round.apart.allowed transport timeout = round.allowed transport timeout :=
  rfl

/-- A round of connections that keep their sockets and their places apart is a round of connections
that have them in one. -/
theorem execute_apart (timeout : Duration) :
    round.apart.execute transport timeout =
      ((round.execute transport timeout).1, (round.execute transport timeout).2.apart) := by
  have looped := loop_apart transport (round.startAll transport) (round.allowed transport timeout)
  unfold execute
  rw [startAll_apart, allowed_apart, looped]
  dsimp only
  rw [finishAll_apart, record_apart]

end Round

end Fanout
