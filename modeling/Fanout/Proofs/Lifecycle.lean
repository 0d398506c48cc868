import Fanout.Proofs.Evolution
import Fanout.Proofs.Sending

/-!
The life of a connection. In a round it goes from connecting over connected to aborted and never
back, and its slot goes with it: without a socket there is nothing to wait for and nothing to be
watched. When the round is over no slot wants anything, so each open socket can be registered afresh
in the next round.
-/

set_option autoImplicit false

namespace Fanout

variable {Net Sock : Type} {transport : Transport Net Sock}

/-! ### Slots -/

structure Readiness.Directed (wanted : Readiness) : Prop where
  timeout : wanted.timeout = false
  error : wanted.error = false

namespace Readiness

variable {wanted : Readiness}

theorem directed_asking (directed : wanted.Directed) (event : Readiness) :
    (Interests.asking event wanted).Directed := by
  obtain ⟨timeout, error⟩ := directed
  constructor
  · simp [Interests.asking, union, without, inter, io, timeout]
  · simp [Interests.asking, union, without, inter, io, error]

theorem Directed.without (directed : wanted.Directed) (taken : Readiness) :
    (wanted.without taken).Directed := by
  obtain ⟨timeout, error⟩ := directed
  constructor
  · simp [Readiness.without, timeout]
  · simp [Readiness.without, error]

/-- Nothing is left once both directions are taken. -/
theorem Directed.without_io (directed : wanted.Directed) :
    wanted.without (io.inter wanted) = .empty := by
  obtain ⟨read, write, timeout, error⟩ := wanted
  obtain ⟨rfl, rfl⟩ := directed
  cases read <;> cases write <;> rfl

end Readiness

structure Slot.Tied (link : Link Sock) (slot : Slot) : Prop where
  directed : slot.wanted.Directed
  bare : link.socket? = none → slot = {}

theorem Slot.tied_new (link : Link Sock) : Slot.Tied link {} := ⟨⟨rfl, rfl⟩, fun _ => rfl⟩

theorem Slot.Tied.of_socket {link other : Link Sock} {slot : Slot} (tied : slot.Tied link)
    {socket : Sock} (known : other.socket? = some socket) : slot.Tied other := by
  refine ⟨tied.directed, ?_⟩
  intro missing
  rw [known] at missing
  cases missing

/-- Taking events from a slot leaves it tied. -/
theorem Slot.Tied.taken {link : Link Sock} {slot : Slot} (tied : slot.Tied link)
    (ready : Readiness) :
    Slot.Tied link { slot with wanted := slot.wanted.without (ready.inter slot.wanted) } := by
  refine ⟨tied.directed.without _, ?_⟩
  intro missing
  obtain rfl := tied.bare missing
  obtain ⟨read, write, timeout, error⟩ := ready
  cases read <;> cases write <;> cases timeout <;> cases error <;> rfl

theorem Link.socket_withSocket {link : Link Sock} {socket : Sock}
    (known : link.socket? = some socket) (later : Sock) :
    (link.withSocket later).socket? = some later := by
  cases link with
  | closed => cases known
  | connecting first => rfl
  | connected first => rfl
  | aborted => cases known

theorem Link.eq_aborted {link : Link Sock} (aborted : link.isAborted = true) : link = .aborted := by
  cases link with
  | aborted => rfl
  | _ => cases aborted

/-! ### Turns -/

namespace Turn

variable {before after turn : Turn Net Sock}

def Tied (turn : Turn Net Sock) : Prop :=
  ∀ slot, turn.interests.slots[turn.ordinal]? = some slot → slot.Tied turn.connection.link

def Rests (turn : Turn Net Sock) : Prop :=
  ∀ slot, turn.interests.slots[turn.ordinal]? = some slot → slot = {}

theorem Rests.tied (rests : turn.Rests) : turn.Tied := by
  intro slot there
  rw [rests slot there]
  exact Slot.tied_new _

theorem Tied.of_socket (tied : before.Tied) (ordinal : after.ordinal = before.ordinal)
    (interests : after.interests = before.interests) {socket : Sock}
    (known : after.connection.link.socket? = some socket) : after.Tied := by
  intro slot there
  rw [ordinal, interests] at there
  exact (tied slot there).of_socket known

theorem forget_rests (tied : turn.Tied) {slot : Slot}
    (found : ((turn.interests.forget turn.ordinal).toOption.getD
      turn.interests).slots[turn.ordinal]? = some slot) : slot = {} := by
  rw [Interests.forget_own] at found
  obtain ⟨held, there, rfl⟩ := Option.map_eq_some_iff.mp found
  unfold Interests.forgotten
  rw [(tied held there).directed.without_io]
  rfl

theorem dropSocket_rests (transport : Transport Net Sock) (tied : turn.Tied) :
    (turn.dropSocket transport).Rests := by
  unfold dropSocket
  cases known : turn.connection.link.socket? with
  | none => exact fun slot there => (tied slot there).bare known
  | some socket => exact fun slot => forget_rests tied

theorem leave_rests (transport : Transport Net Sock) (tied : turn.Tied) :
    (turn.leave transport).Rests := by
  unfold leave finish
  cases known : turn.connection.link.socket? with
  | none => exact fun slot there => (tied slot there).bare known
  | some socket => exact fun slot => forget_rests tied

theorem abort_rests (transport : Transport Net Sock) (tied : turn.Tied)
    (alive : turn.connection.link.isAborted = false) (cause : AbortCause) :
    (turn.abort transport cause).Rests := by
  unfold abort
  rw [alive, if_neg Bool.false_ne_true]
  exact dropSocket_rests transport tied

theorem abort_tied (transport : Transport Net Sock) (tied : turn.Tied) (cause : AbortCause) :
    (turn.abort transport cause).Tied := by
  cases aborted : turn.connection.link.isAborted with
  | true =>
      rw [abort_of_aborted aborted]
      exact tied
  | false => exact (abort_rests transport tied aborted cause).tied

theorem asked_tied {socket later : Sock} {event : Readiness} {refusal : Option IoError}
    {interests : Interests} (tied : turn.Tied)
    (known : turn.connection.link.socket? = some socket)
    (asks : turn.interests.notify turn.ordinal event transport.watch socket =
      .ok (refusal, interests, later)) :
    ({ turn with interests := interests }.withSocket later).Tied := by
  intro slot found
  have open' := Link.socket_withSocket known later
  cases there : turn.interests.slots[turn.ordinal]? with
  | none =>
      unfold Interests.notify Interests.want at asks
      rw [there] at asks
      cases asks
  | some held =>
      obtain ⟨after, answer, revises⟩ := Interests.notify_eq there event transport.watch socket
      cases answer.symm.trans asks
      cases (revises.own there).symm.trans found
      refine ⟨?_, ?_⟩
      · rw [Interests.askSlot_wanted]
        exact Readiness.directed_asking (tied held there).directed event
      · intro missing
        cases open'.symm.trans missing

/-- Every move of a turn leaves the slot tied to its connection. -/
theorem Move.tied {bytes : ByteArray} (tied : before.Tied)
    (move : Move transport before bytes after) : after.Tied := by
  cases move with
  | @unreachable dialing network cause closed dials =>
      exact @abort_tied _ _ { before with network := network } transport tied cause
  | opened closed dials => exact tied.of_socket rfl rfl rfl
  | @shaken socket later handshake connecting shakes =>
      have known : before.connection.link.socket? = some socket := by
        rw [connecting]
        rfl
      exact tied.of_socket rfl rfl (Link.socket_withSocket known later)
  | established connecting shakes => exact tied.of_socket rfl rfl rfl
  | asked known asks => exact asked_tied tied known asks
  | @sent socket later ended buffer connected sends =>
      have known : before.connection.link.socket? = some socket := by
        rw [connected]
        rfl
      exact tied.of_socket rfl rfl (Link.socket_withSocket known later)
  | received connected runs fine => exact tied.of_socket rfl rfl rfl
  | @lost socket cause intake connected runs =>
      have received : (before.withIntake intake).Tied := tied.of_socket rfl rfl rfl
      exact abort_tied transport received cause
  | gaveUp alive => exact abort_tied transport tied _
  | broke known asks => exact tied.of_socket rfl rfl known

theorem Moves.tied {bytes : ByteArray} (tied : before.Tied)
    (moves : Moves transport before bytes after) : after.Tied := by
  induction moves with
  | refl => exact tied
  | step moves busy move ih => exact move.tied ih

/-- Entering a round leaves the socket that there is alone. -/
theorem prepare_tied (tied : turn.Tied) : turn.prepare.Tied := by
  intro slot there
  obtain ⟨directed, bare⟩ := tied slot there
  refine ⟨directed, ?_⟩
  intro missing
  apply bare
  unfold prepare at missing
  dsimp only at missing
  cases link : turn.connection.link with
  | closed => rfl
  | aborted => rfl
  | connecting socket =>
      rw [link] at missing
      exact missing
  | connected socket =>
      rw [link] at missing
      exact missing

end Turn

/-! ### The way of a link -/

/-- The way of a connection in a round: from connecting to connected to aborted, or straight to
aborted. On each part of the way the socket may go from state to state. -/
inductive Link.Onward : Link Sock → Link Sock → Prop where
  | connecting (socket later : Sock) : Onward (.connecting socket) (.connecting later)
  | established (socket later : Sock) : Onward (.connecting socket) (.connected later)
  | connected (socket later : Sock) : Onward (.connected socket) (.connected later)
  | given {link : Link Sock} (alive : link.socket?.isSome = true) : Onward link .aborted
  | aborted : Onward .aborted .aborted

namespace Link

variable {first link last : Link Sock}

theorem Onward.trans (one : Onward first link) (two : Onward link last) : Onward first last := by
  cases one with
  | connecting socket later =>
      cases two with
      | connecting _ last => exact .connecting _ last
      | established _ last => exact .established _ last
      | given alive => exact .given rfl
  | established socket later =>
      cases two with
      | connected _ last => exact .established _ last
      | given alive => exact .given rfl
  | connected socket later =>
      cases two with
      | connected _ last => exact .connected _ last
      | given alive => exact .given rfl
  | given alive =>
      cases two with
      | given impossible => cases impossible
      | aborted => exact .given alive
  | aborted =>
      cases two with
      | given impossible => cases impossible
      | aborted => exact .aborted

theorem Onward.refl (open' : link ≠ .closed) : Onward link link := by
  cases link with
  | closed => exact (open' rfl).elim
  | connecting socket => exact .connecting socket socket
  | connected socket => exact .connected socket socket
  | aborted => exact .aborted

theorem Onward.ne_closed (onward : Onward first last) : last ≠ .closed := by
  cases onward <;> exact nofun

theorem onward_aborted (open' : link ≠ .closed) : Onward link .aborted := by
  cases link with
  | closed => exact (open' rfl).elim
  | connecting socket => exact .given rfl
  | connected socket => exact .given rfl
  | aborted => exact .aborted

theorem onward_withSocket (open' : link ≠ .closed) (socket : Sock) :
    Onward link (link.withSocket socket) := by
  cases link with
  | closed => exact (open' rfl).elim
  | connecting first => exact .connecting first socket
  | connected first => exact .connected first socket
  | aborted => exact .aborted

end Link

namespace Turn

variable {before after turn : Turn Net Sock} {first : Link Sock}

open Link (Onward)

theorem abort_link (transport : Transport Net Sock) (turn : Turn Net Sock) (cause : AbortCause) :
    (turn.abort transport cause).connection.link = .aborted :=
  Link.eq_aborted (abort_aborted transport turn cause)

/-- Who has a place on the way goes on along it. -/
theorem Move.onward {bytes : ByteArray} (open' : before.connection.link ≠ .closed)
    (move : Move transport before bytes after) :
    Onward before.connection.link after.connection.link := by
  cases move with
  | unreachable closed dials => exact (open' closed).elim
  | opened closed dials => exact (open' closed).elim
  | shaken connecting shakes => exact Link.onward_withSocket open' _
  | established connecting shakes =>
      rw [connecting]
      exact .established _ _
  | asked known asks => exact Link.onward_withSocket open' _
  | sent connected sends => exact Link.onward_withSocket open' _
  | received connected runs fine =>
      rw [connected]
      exact .connected _ _
  | lost connected runs =>
      rw [abort_link]
      exact Link.onward_aborted open'
  | gaveUp alive =>
      rw [abort_link]
      exact Link.onward_aborted open'
  | broke known asks => exact .refl open'

theorem Moves.onward {bytes : ByteArray} (onward : Onward first before.connection.link)
    (moves : Moves transport before bytes after) : Onward first after.connection.link := by
  induction moves with
  | refl => exact onward
  | step moves busy move ih => exact ih.trans (move.onward ih.ne_closed)

/-- The first turn in a round puts a connection on its way. -/
theorem start_open (seated : turn.Seated) (busy : 0 < turn.batch.pending) :
    (turn.start transport).connection.link ≠ .closed := by
  intro closed
  have armed := @start_armed _ _ transport _ seated busy
  unfold Armed at armed
  rw [closed] at armed
  exact armed

end Turn

/-! ### Rounds -/

namespace Round

variable {round : Round Net Sock} {ordinal other count : Nat} {pair : Pair Sock}
  {act : Turn Net Sock → Turn Net Sock}

structure InStep (round : Round Net Sock) : Prop where
  counted : round.Counted
  tied : ∀ ordinal pair slot, round.place ordinal = (some pair, some slot) →
    slot.Tied pair.connection.link

theorem InStep.seat_tied (inStep : round.InStep) (present : round.pairs[ordinal]? = some pair) :
    (round.seat ordinal pair).Tied :=
  fun slot there => inStep.tied ordinal pair slot (Prod.ext present there)

theorem turn_inStep (inStep : round.InStep) (present : round.pairs[ordinal]? = some pair)
    (frames : Turn.Frames (round.seat ordinal pair) (act (round.seat ordinal pair)))
    (tied : (act (round.seat ordinal pair)).Tied) : (round.turn ordinal act).InStep := by
  refine ⟨turn_counted present frames inStep.counted, ?_⟩
  intro other after slot found
  by_cases own : other = ordinal
  · subst own
    obtain ⟨here, there⟩ := Prod.mk.inj found
    rw [turn_own present] at here
    rw [turn_interests present] at there
    cases here
    apply tied
    rw [frames.ordinal]
    exact there
  · rw [turn_place present frames own] at found
    exact inStep.tied other after slot found

theorem turnIfPending_inStep (inStep : round.InStep) (framed : Framed act)
    (ties : ∀ turn : Turn Net Sock, 0 < turn.batch.pending → turn.Tied → (act turn).Tied)
    (ordinal : Nat) : (round.turnIfPending ordinal act).InStep := by
  rcases turnIfPending_cases round ordinal act with ⟨_, same⟩ | ⟨pair, present, busy, same⟩
  · rwa [same]
  · rw [same]
    exact turn_inStep inStep present (framed _ busy) (ties _ busy (inStep.seat_tied present))

theorem dropHit_inStep (inStep : round.InStep) (event : Nat × Readiness) :
    (round.dropHit event).InStep := by
  refine ⟨dropHit_counted inStep.counted event, ?_⟩
  intro other after slot found
  by_cases own : other = event.1
  · subst own
    obtain ⟨here, there⟩ := Prod.mk.inj found
    obtain ⟨held, known⟩ := inStep.counted.slot here
    have taken := (Interests.consume_revises known event.2).own known
    cases taken.symm.trans there
    exact (inStep.tied event.1 after held (Prod.ext here known)).taken event.2
  · rw [dropHit_place event own] at found
    exact inStep.tied other after slot found

theorem handle_inStep (inStep : round.InStep) (ordinal : Nat) (event : Readiness) :
    (round.turnIfPending ordinal fun turn => turn.handle transport event).InStep :=
  turnIfPending_inStep inStep (framed_handle event)
    (fun _ busy tied => (Turn.handle_moves busy event).tied tied) ordinal

theorem start_inStep (inStep : round.InStep) (ordinal : Nat) :
    (round.turnIfPending ordinal (Turn.start transport)).InStep :=
  turnIfPending_inStep inStep framed_start
    (fun _ busy tied => (Turn.start_moves busy).tied (Turn.prepare_tied tied)) ordinal

theorem leave_inStep (inStep : round.InStep) (ordinal : Nat) :
    (round.turn ordinal (Turn.leave transport)).InStep := by
  cases present : round.pairs[ordinal]? with
  | none => rwa [turn_of_none present]
  | some pair =>
      have rests := Turn.leave_rests transport (inStep.seat_tied present)
      exact turn_inStep inStep present (Turn.frames_leave transport _) rests.tied

theorem apply_inStep (inStep : round.InStep) (step : Step Net) :
    (round.apply transport step).InStep := by
  cases step with
  | wait network => exact ⟨⟨inStep.counted.slots, inStep.counted.balanced⟩, inStep.tied⟩
  | deliver event =>
      have dropped := dropHit_inStep inStep event
      change (round.deliver transport event).InStep
      rw [deliver_eq]
      split
      · exact dropped
      · exact handle_inStep dropped event.1 _
  | sweep ordinal event => exact handle_inStep (dropHit_inStep inStep (ordinal, .io)) ordinal event
  | finish ordinal => exact leave_inStep inStep ordinal

theorem enlist_slots (engine : Engine) (network : Net) (pairs : List (Pair Sock)) :
    ∀ slot ∈ (enlist engine network pairs).interests.slots, slot = {} := by
  have extended : ∀ round : Round Net Sock, (∀ slot ∈ round.interests.slots, slot = {}) →
      ∀ slot ∈ (pairs.foldl (fun round pair => (round.add pair).2) round).interests.slots,
        slot = {} := by
    induction pairs with
    | nil =>
        intro round new
        exact new
    | cons pair pairs ih =>
        intro round new
        apply ih
        unfold add
        dsimp only
        split
        · exact new
        · intro slot among
          rcases List.mem_append.mp among with before | added
          · exact new slot before
          · exact List.mem_singleton.mp added
  exact extended (new engine network) nofun

theorem enlist_inStep (engine : Engine) (network : Net) (pairs : List (Pair Sock)) :
    (enlist engine network pairs).InStep := by
  refine ⟨enlist_counted engine network pairs, ?_⟩
  intro ordinal pair slot found
  obtain ⟨_, there⟩ := Prod.mk.inj found
  rw [enlist_slots engine network pairs slot (List.mem_of_getElem? there)]
  exact Slot.tied_new _

/-! ### Moments of a round -/

structure Steady (transport : Transport Net Sock) (holds : Round Net Sock → Prop) : Prop where
  start : ∀ {round}, holds round → ∀ ordinal,
    holds (round.turnIfPending ordinal (Turn.start transport))
  step : ∀ {round}, holds round → ∀ step, holds (round.apply transport step)

theorem atStart_succ (transport : Transport Net Sock) (round : Round Net Sock) (count : Nat) :
    round.atStart transport (count + 1) =
      (round.atStart transport count).turnIfPending count (Turn.start transport) := by
  unfold atStart
  rw [List.range_succ, List.foldl_append]
  rfl

/-- The round after `count` of its turns and steps, from the moment that it is entered. -/
def stage {Place : Type → Type} [Serving Place] (transport : Transport Net Sock)
    (round : Round Net Sock Place) (timeout : Duration) (count : Nat) : Round Net Sock Place :=
  if count ≤ round.pairs.length then round.atStart transport count
  else round.midway transport timeout (count - round.pairs.length)

section Steady

variable {holds : Round Net Sock → Prop}

theorem Steady.atStart (steady : Steady transport holds) (begins : holds round) (count : Nat) :
    holds (round.atStart transport count) := by
  induction count with
  | zero => exact begins
  | succ count ih =>
      rw [atStart_succ]
      exact steady.start ih count

theorem Steady.replay (steady : Steady transport holds) (begins : holds round)
    (steps : List (Step Net)) : holds (round.replay transport steps) := by
  induction steps generalizing round with
  | nil => exact begins
  | cons step steps ih => exact ih (steady.step begins step)

theorem Steady.stage (steady : Steady transport holds) (begins : holds round)
    (timeout : Duration) (count : Nat) : holds (round.stage transport timeout count) := by
  unfold Round.stage
  split
  · exact steady.atStart begins count
  · exact steady.replay (steady.atStart begins _) _

end Steady

theorem steady_inStep (transport : Transport Net Sock) : Steady transport InStep :=
  ⟨start_inStep, apply_inStep⟩

/-- Once a pair had its first turn, the first turns of the others leave it alone. -/
theorem atStart_done (done : ordinal < count) :
    (round.atStart transport count).pairs[ordinal]? =
      (round.atStart transport (ordinal + 1)).pairs[ordinal]? := by
  obtain ⟨more, rfl⟩ := Nat.exists_eq_add_of_lt done
  induction more with
  | zero => rfl
  | succ more ih =>
      have apart : ordinal ≠ ordinal + more + 1 := by omega
      rw [← Nat.add_assoc, atStart_succ, turnIfPending_others apart, ih (by omega)]

theorem stage_pairs (transport : Transport Net Sock) (timeout : Duration) (done : ordinal < count)
    (inside : ordinal < round.pairs.length) :
    (round.stage transport timeout count).pairs[ordinal]? =
      (round.midway transport timeout (count - round.pairs.length)).pairs[ordinal]? := by
  unfold stage
  split
  · rename_i early
    rw [Nat.sub_eq_zero_of_le early]
    change _ = (round.atStart transport round.pairs.length).pairs[ordinal]?
    rw [atStart_done done, atStart_done inside]
  · rfl

theorem startAll_open (transport : Transport Net Sock) (inStep : round.InStep)
    (present : round.pairs[ordinal]? = some pair) (busy : pair.batch.hasPending = true) :
    ∃ begun, (round.startAll transport).pairs[ordinal]? = some begun ∧
      begun.connection.link ≠ .closed := by
  have inside := (List.getElem?_eq_some_iff.mp present).1
  have here := (@atStart_own _ _ transport round ordinal).trans present
  have before := (steady_inStep transport).atStart inStep ordinal
  obtain ⟨slot, there⟩ := before.counted.slot here
  rw [startAll_own inside, turnIfPending_of_pending ((isPending_eq here).trans busy),
    turn_own here]
  exact ⟨_, rfl, Turn.start_open (seat_seated there) (of_decide_eq_true busy)⟩

theorem leave_place (round : Round Net Sock) (ordinal other : Nat) (apart : other ≠ ordinal) :
    (round.turn ordinal (Turn.leave transport)).place other = round.place other := by
  cases present : round.pairs[ordinal]? with
  | none => rw [turn_of_none present]
  | some pair => exact turn_place present (Turn.frames_leave transport _) apart

theorem connecting_of_abort {turn : Turn Net Sock} {cause : AbortCause}
    (connecting : (turn.abort transport cause).pair.connection.link.isConnecting = true) :
    False := by
  change (turn.abort transport cause).connection.link.isConnecting = true at connecting
  rw [Turn.abort_link] at connecting
  cases connecting

/-- A pair that is still connecting has pending commands. -/
theorem connecting_busy {entry after : Pair Sock} {bytes : ByteArray}
    (busy : 0 < entry.batch.pending) (served : Served transport entry bytes after)
    (connecting : after.connection.link.isConnecting = true) : 0 < after.batch.pending := by
  induction served with
  | entered => exact busy
  | @move bytes more before after served missing move ih =>
      cases move with
      | opened closed dials => exact missing
      | shaken link shakes => exact missing
      | asked known asks => exact missing
      | established link shakes => cases connecting
      | sent connected sends =>
          dsimp only [Turn.pair, Turn.withSocket, Turn.withLink] at connecting
          rw [connected] at connecting
          cases connecting
      | received connected runs fine => cases connecting
      | unreachable closed dials => exact (connecting_of_abort connecting).elim
      | lost connected runs => exact (connecting_of_abort connecting).elim
      | gaveUp alive => exact (connecting_of_abort connecting).elim
      | broke known asks => exact missing

/-- No round leaves a connection that is still connecting. -/
theorem execute_connected (transport : Transport Net Sock) (counted : round.Counted)
    (timeout : Duration)
    (present : round.pairs[ordinal]? = some pair)
    (before : pair.connection.link.isConnecting = false) {after : Pair Sock}
    (left : (round.execute transport timeout).2.pairs[ordinal]? = some after) :
    after.connection.link.isConnecting = false := by
  cases busy : pair.batch.hasPending with
  | false =>
      cases (execute_idle transport timeout present busy).symm.trans left
      exact before
  | true =>
      obtain ⟨last, there, served⟩ := execute_served transport timeout present busy
      cases there.symm.trans left
      have entered : 0 < pair.prepared.batch.pending := by
        rw [pair.prepared_batch.2.1]
        exact of_decide_eq_true busy
      apply Bool.eq_false_iff.mpr
      intro connecting
      have missing := connecting_busy entered served connecting
      have aborted := execute_givenUp transport counted timeout ordinal after left
        (decide_eq_true missing)
      rw [Link.eq_aborted aborted] at connecting
      cases connecting

end Round

inductive Connection.Lived {Place : Type → Type} [Serving Place] (transport : Transport Net Sock) :
    Connection Sock Place → Prop where
  | new (endpoint : Endpoint) (maxErrorLength : Nat) :
      Lived transport
        { endpoint := endpoint
          link := Serving.closed
          parser := {}
          maxErrorLength := maxErrorLength }
  | closed {connection : Connection Sock Place} (lived : Lived transport connection)
      (network : Net) : Lived transport (Serving.close transport connection network).1
  | served {engine : Engine} {network : Net} {pairs : List (Pair Sock Place)} {timeout : Duration}
      {ordinal : Nat} {after : Pair Sock Place}
      (lived : ∀ pair ∈ (Round.enlist engine network pairs).pairs,
        Lived transport pair.connection)
      (left : ((Round.enlist engine network pairs).execute transport timeout).2.pairs[ordinal]? =
        some after) :
      Lived transport after.connection

/-- Between two rounds no connection is connecting. -/
theorem Connection.Lived.settled {connection : Connection Sock}
    (lived : connection.Lived transport) : connection.link.isConnecting = false := by
  induction lived with
  | new endpoint maxErrorLength => rfl
  | closed lived network ih => rfl
  | @served engine network pairs timeout ordinal after lived left ih =>
      have inside := (List.getElem?_eq_some_iff.mp left).1
      rw [Round.execute_pairs, Round.length_replay, Round.length_startAll] at inside
      have entered := List.getElem?_eq_getElem inside
      exact Round.execute_connected transport (Round.enlist_counted engine network pairs) timeout
        entered (ih _ (List.mem_of_getElem? entered)) left

namespace Round

variable {round : Round Net Sock} {ordinal count : Nat} {pair : Pair Sock}

theorem stage_idle (transport : Transport Net Sock) (timeout : Duration)
    (present : round.pairs[ordinal]? = some pair) (idle : pair.batch.hasPending = false)
    (count : Nat) : (round.stage transport timeout count).pairs[ordinal]? = some pair := by
  have steady : Steady transport fun round => round.pairs[ordinal]? = some pair :=
    ⟨fun present first => turnIfPending_idle _ present idle first _,
      fun present step => apply_idle present idle step⟩
  exact steady.stage present timeout count

/-- Until its first turn a pair is as it entered. -/
theorem stage_before (transport : Transport Net Sock) (timeout : Duration)
    (present : round.pairs[ordinal]? = some pair) (early : count ≤ ordinal) :
    (round.stage transport timeout count).pairs[ordinal]? = some pair := by
  have inside := (List.getElem?_eq_some_iff.mp present).1
  have absent : ordinal ∉ List.range count := by
    rw [List.mem_range]
    omega
  unfold stage
  rw [if_pos (by omega), ← present]
  exact @foldl_others _ _ _ (fun round ordinal => round.pairs[ordinal]?) _
    (fun _ _ _ apart => turnIfPending_others apart _) _ _ absent round

end Round

end Fanout
