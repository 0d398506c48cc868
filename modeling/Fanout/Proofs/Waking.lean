import Fanout.Proofs.Frames

/-!
No lost wake-up. A pair with pending commands waits for the next thing that has to happen to it:
the socket it connects must become writable, and a connected one readable, and writable too while
there is something to send. Every turn leaves its pair so, or has given up.
-/

set_option autoImplicit false

namespace Fanout

namespace Readiness

theorem contains_writing (events : Readiness) : events.contains .writing = events.write := by
  obtain ⟨read, write, timeout, error⟩ := events
  cases write <;> rfl

theorem contains_reading (events : Readiness) : events.contains .reading = events.read := by
  obtain ⟨read, write, timeout, error⟩ := events
  cases read <;> rfl

theorem asking_writing (wanted : Readiness) :
    (Interests.asking .writing wanted).write = true ∧
      (Interests.asking .writing wanted).read = wanted.read := by
  obtain ⟨read, write, timeout, error⟩ := wanted
  cases read <;> cases write <;> exact ⟨rfl, rfl⟩

theorem asking_reading (wanted : Readiness) :
    (Interests.asking .reading wanted).read = true ∧
      (Interests.asking .reading wanted).write = wanted.write := by
  obtain ⟨read, write, timeout, error⟩ := wanted
  cases read <;> cases write <;> exact ⟨rfl, rfl⟩

end Readiness

/-- What a pair has to wait for: where its connection is in its life, how much it still has to
send, and whether it is listening already. -/
def Link.Armed {Sock : Type} (listening : Prop) (unsent : Nat) (wanted : Readiness) :
    Link Sock → Prop
  | .closed => False
  | .connecting _ => wanted.write = true
  | .connected _ => (listening → wanted.read = true) ∧ (0 < unsent → wanted.write = true)
  | .aborted => True

theorem Link.Armed.mono {Sock : Type} {link : Link Sock} {listening listening' : Prop}
    {unsent unsent' : Nat} {wanted : Readiness} (armed : link.Armed listening unsent wanted)
    (weaker : listening' → listening) (fewer : unsent' ≤ unsent) :
    link.Armed listening' unsent' wanted := by
  cases link with
  | closed => exact armed
  | connecting socket => exact armed
  | aborted => trivial
  | connected socket =>
      refine ⟨fun listens => armed.1 (weaker listens), ?_⟩
      intro more
      exact armed.2 (Nat.lt_of_lt_of_le more fewer)

theorem Link.armed_of_aborted {Sock : Type} {link : Link Sock} (aborted : link.isAborted = true)
    (listening : Prop) (unsent : Nat) (wanted : Readiness) :
    link.Armed listening unsent wanted := by
  cases link with
  | aborted => trivial
  | _ => cases aborted

theorem sendPending_drained {Net Sock : Type} (transport : Transport Net Sock) (buffer : Buffer)
    (socket : Sock) (drained : (sendPending transport buffer socket).1 = .drained) :
    (sendPending transport buffer socket).2.1.remaining = 0 := by
  fun_induction sendPending transport buffer socket with
  | case1 buffer socket none => exact none
  | case2 => cases drained
  | case3 buffer socket more count after later sent ih => exact ih drained
  | case4 => cases drained
  | case5 buffer socket more after later sent ih => exact ih drained
  | case6 => cases drained

namespace Turn

variable {Net Sock : Type} {transport : Transport Net Sock} {turn : Turn Net Sock}

def Armed (listening : Prop) (turn : Turn Net Sock) : Prop :=
  turn.connection.link.Armed listening turn.batch.writeBuffer.remaining turn.wanted

theorem armed_of_aborted {listening : Prop}
    (aborted : turn.connection.link.isAborted = true) : turn.Armed listening :=
  Link.armed_of_aborted aborted _ _ _

/-- Asking for an event either fails, and the pair gives up, or adds to what the pair wants. -/
theorem notify_cases (seated : turn.Seated) {socket : Sock}
    (known : turn.connection.link.socket? = some socket) (event : Readiness) :
    (turn.notify transport event).connection.link.isAborted = true ∨
      ∃ later, (turn.notify transport event).connection.link =
          turn.connection.link.withSocket later ∧
        (turn.notify transport event).batch = turn.batch ∧
        (turn.notify transport event).wanted = Interests.asking event turn.wanted := by
  obtain ⟨slot, there, wants⟩ := exists_slot seated
  obtain ⟨marked, asks, revises⟩ := Interests.notify_eq there event transport.watch socket
  have asking := Interests.askSlot_wanted slot event transport.watch socket
  unfold notify
  rw [known]
  dsimp only
  rw [asks]
  cases (Interests.askSlot slot event transport.watch socket).1 with
  | none =>
      refine .inr ⟨_, rfl, rfl, ?_⟩
      rw [wants, ← asking]
      exact wanted_of_revises seated rfl revises
  | some error => exact .inl (abort_aborted _ _ _)

theorem connecting_armed (seated : turn.Seated) {socket : Sock}
    (connecting : turn.connection.link = .connecting socket) (listening : Prop) :
    (turn.notify transport .writing).Armed listening := by
  have known : turn.connection.link.socket? = some socket := by
    rw [connecting]
    rfl
  rcases @notify_cases _ _ transport _ seated _ known .writing with
    aborted | ⟨later, link, batch, wants⟩
  · exact armed_of_aborted aborted
  · unfold Armed
    rw [link, connecting, wants]
    exact (Readiness.asking_writing turn.wanted).1

theorem connected_armed {listening : Prop} (seated : turn.Seated) {socket : Sock}
    (connected : turn.connection.link = .connected socket)
    (listens : listening → turn.wanted.read = true) :
    (turn.notify transport .writing).Armed listening := by
  have known : turn.connection.link.socket? = some socket := by
    rw [connected]
    rfl
  rcases @notify_cases _ _ transport _ seated _ known .writing with
    aborted | ⟨later, link, batch, wants⟩
  · exact armed_of_aborted aborted
  · obtain ⟨writes, reads⟩ := Readiness.asking_writing turn.wanted
    unfold Armed
    rw [link, connected, wants]
    refine ⟨?_, fun _ => writes⟩
    rw [reads]
    exact listens

theorem listening_armed (seated : turn.Seated) {socket : Sock}
    (connected : turn.connection.link = .connected socket)
    (sends : 0 < turn.batch.writeBuffer.remaining → turn.wanted.write = true) :
    (turn.notify transport .reading).Armed True := by
  have known : turn.connection.link.socket? = some socket := by
    rw [connected]
    rfl
  rcases @notify_cases _ _ transport _ seated _ known .reading with
    aborted | ⟨later, link, batch, wants⟩
  · exact armed_of_aborted aborted
  · obtain ⟨reads, writes⟩ := Readiness.asking_reading turn.wanted
    unfold Armed
    rw [link, connected, batch, wants]
    refine ⟨fun _ => reads, ?_⟩
    rw [writes]
    exact sends

theorem sendData_armed {listening : Prop} (seated : turn.Seated) {socket : Sock}
    (connected : turn.connection.link = .connected socket)
    (listens : listening → turn.wanted.read = true) :
    (turn.sendData transport).Armed listening := by
  have drains := sendPending_drained transport turn.batch.writeBuffer socket
  unfold sendData
  rw [connected]
  dsimp only
  cases sends : sendPending transport turn.batch.writeBuffer socket with
  | mk ended rest =>
      obtain ⟨buffer, later⟩ := rest
      rw [sends] at drains
      dsimp only
      have link : (({ turn with batch := { turn.batch with writeBuffer := buffer } } :
          Turn Net Sock).withSocket later).connection.link = .connected later := by
        simp only [withSocket, withLink, connected, Link.withSocket]
      cases ended with
      | failed error => exact armed_of_aborted (abort_aborted _ _ _)
      | drained =>
          unfold Armed
          dsimp only
          rw [link]
          refine ⟨listens, ?_⟩
          intro more
          exact absurd (drains rfl) (Nat.ne_of_gt more)
      | blocked => exact connected_armed seated link listens

theorem connect_armed (seated : turn.Seated) (listening : Prop) :
    (turn.connect transport).Armed listening := by
  unfold connect
  cases transport.dial turn.network turn.connection.endpoint with
  | mk dialing network =>
      dsimp only
      cases dialing with
      | unresolved => exact armed_of_aborted (abort_aborted _ _ _)
      | refused error => exact armed_of_aborted (abort_aborted _ _ _)
      | opened socket =>
          refine connecting_armed ?_ rfl listening
          exact seated

theorem finishConnect_armed (seated : turn.Seated) {socket : Sock}
    (connecting : turn.connection.link = .connecting socket) :
    (turn.finishConnect transport).connection.link.Armed True 0
      (turn.finishConnect transport).wanted := by
  unfold finishConnect
  rw [connecting]
  dsimp only
  cases transport.shake socket with
  | mk handshake later =>
      cases handshake with
      | failed error => exact Link.armed_of_aborted (abort_aborted _ _ _) _ _ _
      | inProgress =>
          have link : (turn.withSocket later).connection.link = .connecting later := by
            simp only [withSocket, withLink, connecting, Link.withSocket]
          have armed := @connecting_armed _ _ transport (turn.withSocket later) seated _ link True
          exact armed.mono id (Nat.zero_le _)
      | established =>
          rcases @notify_cases _ _ transport (turn.withLink (.connected later)) seated _ rfl
            .reading with aborted | ⟨last, link, _, wants⟩
          · exact Link.armed_of_aborted aborted _ _ _
          · dsimp only
            rw [link, wants]
            exact ⟨fun _ => (Readiness.asking_reading _).1, nofun⟩

theorem writeData_armed {listening : Prop} (seated : turn.Seated)
    (engaged : turn.Engaged)
    (listens : ∀ socket, turn.connection.link = .connected socket → listening →
      turn.wanted.read = true) :
    (turn.writeData transport).Armed listening := by
  unfold writeData
  cases link : turn.connection.link with
  | closed => exact connect_armed seated listening
  | connected socket => exact sendData_armed seated link (listens socket link)
  | aborted =>
      apply armed_of_aborted
      dsimp only
      rw [link]
      rfl
  | connecting socket =>
      have armed := @finishConnect_armed _ _ transport _ seated _ link
      have frames := (@finishConnect_goes _ _ transport _ engaged).moves.frames
      dsimp only
      cases next : (turn.finishConnect transport).connection.link with
      | connected later =>
          rw [next] at armed
          exact sendData_armed (frames.seated seated) next fun _ => armed.1 trivial
      | closed =>
          rw [next] at armed
          exact armed.elim
      | aborted =>
          unfold sendData
          rw [next]
          exact armed_of_aborted (by rw [next]; rfl)
      | connecting later =>
          unfold sendData Armed
          rw [next] at armed
          rw [next]
          dsimp only
          rw [next]
          exact armed

theorem readData_armed {listening : Prop} (seated : turn.Seated) (armed : turn.Armed listening)
    (busy : 0 < (turn.readData transport).batch.pending) :
    (turn.readData transport).Armed True := by
  unfold Armed at armed
  unfold readData at busy ⊢
  cases link : turn.connection.link with
  | closed =>
      rw [link] at armed
      exact armed.elim
  | aborted =>
      dsimp only
      exact armed_of_aborted (by rw [link]; rfl)
  | connecting socket =>
      dsimp only
      unfold Armed
      rw [link] at armed ⊢
      exact armed
  | connected socket =>
      rw [link] at armed busy
      dsimp only at busy ⊢
      have answered := Intake.answered_iff transport (turn.intake socket)
      have keeps := Intake.run_keeps transport (turn.intake socket)
      cases runs : (turn.intake socket).run transport with
      | mk ended intake =>
          rw [runs] at busy answered keeps
          cases ended with
          | answered => exact absurd (answered.mp rfl) (Nat.ne_of_gt busy)
          | failed cause => exact armed_of_aborted (abort_aborted _ _ _)
          | blocked =>
              refine listening_armed ?_ rfl ?_
              · exact seated
              · intro more
                dsimp only [withIntake] at more
                rw [keeps.writeBuffer] at more
                exact armed.2 more

theorem start_armed (seated : turn.Seated) (busy : 0 < turn.batch.pending) :
    (turn.start transport).Armed True := by
  have engaged := prepare_engaged busy
  have frames := (@writeData_goes _ _ transport _ engaged).moves.frames
  have sent : (turn.prepare.writeData transport).Armed False := by
    refine writeData_armed ?_ engaged fun _ _ impossible => impossible.elim
    exact seated
  unfold start
  dsimp only
  unfold Armed at sent
  cases link : (turn.prepare.writeData transport).connection.link with
  | connected socket =>
      rw [link] at sent
      refine listening_armed (frames.seated ?_) link sent.2
      exact seated
  | _ =>
      unfold Armed
      rw [link] at sent ⊢
      exact sent

theorem handle_over {event : Readiness} (settled : event = .timedOut ∨ event = .failing) :
    (turn.handle transport event).connection.link.isAborted = true := by
  unfold handle
  split
  · assumption
  · rcases settled with rfl | rfl
    · exact abort_aborted _ _ _
    · exact abort_aborted _ _ _

theorem sending_armed (seated : turn.Seated) (engaged : turn.Engaged) {held hit : Readiness}
    (armed : turn.connection.link.Armed True turn.batch.writeBuffer.remaining held)
    (reads : held.read = true → hit.read = false → turn.wanted.read = true)
    (writes : held.write = true → hit.write = false → turn.wanted.write = true) :
    (if hit.write = true then turn.writeData transport else turn).Seated ∧
      (if hit.write = true then turn.writeData transport else turn).Armed (hit.read = false) := by
  by_cases sends : hit.write = true
  · rw [if_pos sends]
    have frames := (@writeData_goes _ _ transport _ engaged).moves.frames
    refine ⟨frames.seated seated, writeData_armed seated engaged ?_⟩
    intro socket link spared
    rw [link] at armed
    exact reads (armed.1 trivial) spared
  · rw [if_neg sends]
    refine ⟨seated, ?_⟩
    have kept := Bool.eq_false_iff.mpr sends
    unfold Armed
    cases link : turn.connection.link with
    | closed =>
        rw [link] at armed
        exact armed
    | connecting socket =>
        rw [link] at armed
        exact writes armed kept
    | aborted => trivial
    | connected socket =>
        rw [link] at armed
        exact ⟨reads (armed.1 trivial), fun more => writes (armed.2 more) kept⟩

/-- Before the turn the pair waited for what it had to; the events of the turn are taken from
that, and the turn asks for them again where they are still needed. -/
theorem handle_armed (seated : turn.Seated) (busy : 0 < turn.batch.pending)
    {held ready : Readiness}
    (armed : turn.connection.link.Armed True turn.batch.writeBuffer.remaining held)
    (rest : turn.wanted = held.without (ready.inter held))
    (missing : 0 < (turn.handle transport (ready.inter held)).batch.pending) :
    (turn.handle transport (ready.inter held)).Armed True := by
  have reads : held.read = true → (ready.inter held).read = false → turn.wanted.read = true := by
    intro holds spared
    rw [rest]
    simp only [Readiness.without, holds, spared, Bool.not_false, Bool.and_self]
  have writes : held.write = true → (ready.inter held).write = false →
      turn.wanted.write = true := by
    intro holds spared
    rw [rest]
    simp only [Readiness.without, holds, spared, Bool.not_false, Bool.and_self]
  have engaged : turn.Engaged := .inr busy
  generalize ready.inter held = hit at *
  rcases handle_cases transport turn hit with ⟨_, cause, gives⟩ | ⟨_, serves⟩
  · rw [gives]
    exact armed_of_aborted (abort_aborted _ _ _)
  · rw [serves, Readiness.contains_writing, Readiness.contains_reading] at missing ⊢
    have written := @sending_armed _ _ transport _ seated engaged _ _ armed reads writes
    dsimp only at missing ⊢
    by_cases spared : hit.read = true
    · rw [if_pos spared] at missing ⊢
      exact readData_armed written.1 written.2 missing
    · rw [if_neg spared]
      exact Link.Armed.mono written.2 (fun _ => Bool.eq_false_iff.mpr spared) (Nat.le_refl _)

end Turn

end Fanout
