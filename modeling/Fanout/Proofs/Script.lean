import Fanout.Round
import Fanout.Proofs.Moves

/-!
A round as a list of steps. After the first turns the round only waits, delivers events and, at its
end, sweeps up what is pending; the list of these steps replays the whole loop, so what holds of a
round is shown of one step.
-/

set_option autoImplicit false

namespace Fanout.Round

variable {Net Sock : Type} {Place : Type → Type} (transport : Transport Net Sock)

inductive Step (Net : Type) where
  /-- The poller waited, and the network is another one now. -/
  | wait (network : Net)
  | deliver (event : Nat × Readiness)
  /-- A pair that still waits gets the event that ends the round. -/
  | sweep (ordinal : Nat) (event : Readiness)
  | finish (ordinal : Nat)

def hit (round : Round Net Sock Place) (event : Nat × Readiness) : Readiness :=
  (round.interests.consume event.1 event.2).1

def dropHit (round : Round Net Sock Place) (event : Nat × Readiness) : Round Net Sock Place :=
  { round with interests := (round.interests.consume event.1 event.2).2 }

def dropWanted (round : Round Net Sock Place) (ordinal : Nat) : Round Net Sock Place :=
  { round with interests := (round.interests.takeAll ordinal).2 }

variable [Serving Place]

def apply (round : Round Net Sock Place) : Step Net → Round Net Sock Place
  | .wait network => { round with network := network }
  | .deliver event => round.deliver transport event
  | .sweep ordinal event =>
      (round.dropWanted ordinal).turnIfPending ordinal fun turn =>
        Serving.handle transport turn event
  | .finish ordinal => round.turn ordinal (Serving.leave transport)

def replay (round : Round Net Sock Place) (steps : List (Step Net)) : Round Net Sock Place :=
  steps.foldl (apply transport) round

def sweeps (round : Round Net Sock Place) (event : Readiness) : List (Step Net) :=
  (List.range round.pairs.length).map fun ordinal => .sweep ordinal event

/-- What the loop does until the round is over. -/
def loopSteps (round : Round Net Sock Place) (remaining : Nat) : List (Step Net) :=
  if round.interests.outstanding = 0 || !round.anyPending then []
  else if _expired : remaining = 0 then round.sweeps .timedOut
  else
    match transport.poll round.network round.watched remaining with
    | (.failed _, _, network) => .wait network :: round.sweeps .failing
    | (.interrupted, passed, network) =>
        .wait network :: loopSteps { round with network := network } (remaining - (passed + 1))
    | (.ready events, passed, network) =>
        .wait network :: events.map .deliver ++
          loopSteps ({ round with network := network }.deliverAll transport events)
            (remaining - (passed + 1))
termination_by remaining

/-- All steps of a round after the first turns. -/
def steps (round : Round Net Sock Place) (timeout : Duration) : List (Step Net) :=
  loopSteps transport (round.startAll transport) (round.allowed transport timeout) ++
    (List.range round.pairs.length).map .finish

variable {transport}

theorem replay_cons (round : Round Net Sock) (step : Step Net) (steps : List (Step Net)) :
    round.replay transport (step :: steps) = (round.apply transport step).replay transport steps :=
  rfl

theorem replay_append (round : Round Net Sock) (first second : List (Step Net)) :
    round.replay transport (first ++ second) =
      (round.replay transport first).replay transport second :=
  List.foldl_append

theorem replay_deliver (round : Round Net Sock) (events : List (Nat × Readiness)) :
    round.replay transport (events.map .deliver) = round.deliverAll transport events :=
  List.foldl_map

theorem replay_sweeps (round : Round Net Sock) (event : Readiness) :
    round.replay transport (round.sweeps event) = round.dispatchAll transport event :=
  List.foldl_map

theorem replay_finish (round : Round Net Sock) (ordinals : List Nat) :
    round.replay transport (ordinals.map .finish) =
      ordinals.foldl (fun round ordinal => round.turn ordinal (Turn.leave transport)) round :=
  List.foldl_map

theorem loop_eq_replay (round : Round Net Sock) (remaining : Nat) :
    (round.loop transport remaining).2 =
      round.replay transport (round.loopSteps transport remaining) := by
  fun_induction loop transport round remaining with
  | case1 round remaining settled =>
      rw [loopSteps, if_pos settled]
      rfl
  | case2 round going =>
      rw [loopSteps, if_neg going, dif_pos rfl, replay_sweeps]
  | case3 round remaining going more error passed network polled failed =>
      rw [loopSteps, if_neg going, dif_neg more, polled]
      dsimp only
      rw [replay_cons]
      exact (replay_sweeps _ _).symm
  | case4 round remaining going more passed network polled ih =>
      rw [loopSteps, if_neg going, dif_neg more, polled]
      exact ih
  | case5 round remaining going more events passed network polled ih =>
      rw [loopSteps, if_neg going, dif_neg more, polled]
      dsimp only
      rw [List.cons_append, replay_cons, replay_append, replay_deliver]
      exact ih

/-! ### Turns -/

def seat (round : Round Net Sock Place) (ordinal : Nat) (pair : Pair Sock Place) :
    Turn Net Sock Place :=
  { network := round.network
    interests := round.interests
    memory := round.engine.memory
    ordinal := ordinal
    connection := pair.connection
    batch := pair.batch
    breach := round.breach }

/-- What a turn leaves behind where no other pair is in the round. -/
def alone (turn : Turn Net Sock Place) : Round Net Sock Place :=
  { engine := { memory := turn.memory }
    network := turn.network
    interests := turn.interests
    pairs := [⟨turn.connection, turn.batch⟩]
    breach := turn.breach }

variable {round : Round Net Sock} {ordinal : Nat} {pair : Pair Sock}

theorem turn_pairs (present : round.pairs[ordinal]? = some pair)
    (act : Turn Net Sock → Turn Net Sock) :
    (round.turn ordinal act).pairs =
      round.pairs.set ordinal
        ⟨(act (round.seat ordinal pair)).connection, (act (round.seat ordinal pair)).batch⟩ := by
  unfold turn
  rw [present]
  rfl

theorem turn_interests (present : round.pairs[ordinal]? = some pair)
    (act : Turn Net Sock → Turn Net Sock) :
    (round.turn ordinal act).interests = (act (round.seat ordinal pair)).interests := by
  unfold turn
  rw [present]
  rfl

theorem turn_of_none (missing : round.pairs[ordinal]? = none)
    (act : Turn Net Sock → Turn Net Sock) : round.turn ordinal act = round := by
  unfold turn
  rw [missing]

theorem turn_own (present : round.pairs[ordinal]? = some pair)
    (act : Turn Net Sock → Turn Net Sock) :
    (round.turn ordinal act).pairs[ordinal]? =
      some ⟨(act (round.seat ordinal pair)).connection, (act (round.seat ordinal pair)).batch⟩ := by
  have inside := (List.getElem?_eq_some_iff.mp present).1
  rw [turn_pairs present, List.getElem?_set_self inside]

theorem turn_others {other : Nat} (apart : other ≠ ordinal) (act : Turn Net Sock → Turn Net Sock) :
    (round.turn ordinal act).pairs[other]? = round.pairs[other]? := by
  cases present : round.pairs[ordinal]? with
  | none => rw [turn_of_none present]
  | some pair => rw [turn_pairs present, List.getElem?_set_ne (Ne.symm apart)]

theorem length_turn (round : Round Net Sock) (ordinal : Nat) (act : Turn Net Sock → Turn Net Sock) :
    (round.turn ordinal act).pairs.length = round.pairs.length := by
  cases present : round.pairs[ordinal]? with
  | none => rw [turn_of_none present]
  | some pair => rw [turn_pairs present, List.length_set]

theorem leave_pairs (transport : Transport Net Sock) (round : Round Net Sock) (ordinal : Nat) :
    (round.turn ordinal (Turn.leave transport)).pairs = round.pairs := by
  cases present : round.pairs[ordinal]? with
  | none => rw [turn_of_none present]
  | some pair =>
      have same : ((round.seat ordinal pair).leave transport).connection = pair.connection ∧
          ((round.seat ordinal pair).leave transport).batch = pair.batch := by
        unfold Turn.leave Turn.finish
        cases (round.seat ordinal pair).connection.link.socket? <;> exact ⟨rfl, rfl⟩
      rw [turn_pairs present, same.1, same.2]
      obtain ⟨inside, rfl⟩ := List.getElem?_eq_some_iff.mp present
      exact List.set_getElem_self inside

theorem finishAll_pairs (transport : Transport Net Sock) (round : Round Net Sock) :
    (round.finishAll transport).pairs = round.pairs := by
  unfold finishAll eachPair
  induction List.range round.pairs.length generalizing round with
  | nil => rfl
  | cons ordinal ordinals ih => exact (ih _).trans (leave_pairs transport round ordinal)

theorem isPending_eq (present : round.pairs[ordinal]? = some pair) :
    round.isPending ordinal = pair.batch.hasPending := by
  unfold isPending
  rw [present]
  rfl

theorem turnIfPending_of_pending (busy : round.isPending ordinal = true)
    (act : Turn Net Sock → Turn Net Sock) :
    round.turnIfPending ordinal act = round.turn ordinal act := by
  unfold turnIfPending
  rw [if_pos busy]

theorem turnIfPending_of_answered (answered : round.isPending ordinal = false)
    (act : Turn Net Sock → Turn Net Sock) : round.turnIfPending ordinal act = round := by
  unfold turnIfPending
  rw [answered]
  rfl

theorem turnIfPending_others {other : Nat} (apart : other ≠ ordinal)
    (act : Turn Net Sock → Turn Net Sock) :
    (round.turnIfPending ordinal act).pairs[other]? = round.pairs[other]? := by
  cases busy : round.isPending ordinal with
  | false => rw [turnIfPending_of_answered busy]
  | true => rw [turnIfPending_of_pending busy, turn_others apart]

theorem length_turnIfPending (round : Round Net Sock) (ordinal : Nat)
    (act : Turn Net Sock → Turn Net Sock) :
    (round.turnIfPending ordinal act).pairs.length = round.pairs.length := by
  cases busy : round.isPending ordinal with
  | false => rw [turnIfPending_of_answered busy]
  | true => rw [turnIfPending_of_pending busy, length_turn]

/-! ### One after the other -/

variable {α : Type} {view : Round Net Sock → Nat → α} {act : Round Net Sock → Nat → Round Net Sock}

theorem foldl_others
    (others : ∀ (round : Round Net Sock) (ordinal other : Nat), other ≠ ordinal →
      view (act round ordinal) other = view round other)
    {ordinals : List Nat} {other : Nat} (absent : other ∉ ordinals) (round : Round Net Sock) :
    view (ordinals.foldl act round) other = view round other := by
  induction ordinals generalizing round with
  | nil => rfl
  | cons ordinal ordinals ih =>
      rw [List.mem_cons, not_or] at absent
      rw [List.foldl_cons, ih absent.2, others round ordinal other absent.1]

/-- Acting on every pair in turn does to each one what acting on it alone does. -/
theorem eachPair_own {relation : α → α → Prop}
    (others : ∀ (round : Round Net Sock) (ordinal other : Nat), other ≠ ordinal →
      view (act round ordinal) other = view round other)
    (own : ∀ (round : Round Net Sock) (ordinal : Nat),
      relation (view round ordinal) (view (act round ordinal) ordinal))
    (inside : ordinal < round.pairs.length) :
    relation (view round ordinal) (view (round.eachPair act) ordinal) := by
  obtain ⟨first, rest, split⟩ := List.append_of_mem (List.mem_range.mpr inside)
  have distinct : (List.range round.pairs.length).Nodup := List.nodup_range
  rw [split, List.nodup_append] at distinct
  obtain ⟨_, distinct', apart⟩ := distinct
  have before : ordinal ∉ first := fun member => apart ordinal member ordinal List.mem_cons_self rfl
  have behind : ordinal ∉ rest := (List.nodup_cons.mp distinct').1
  have done := own (first.foldl act round) ordinal
  unfold eachPair
  rw [split, List.foldl_append, List.foldl_cons, foldl_others others behind]
  rwa [foldl_others others before round] at done

/-! ### Steps -/

theorem deliver_eq (transport : Transport Net Sock) (round : Round Net Sock)
    (event : Nat × Readiness) :
    round.deliver transport event =
      if (round.hit event).isEmpty then round.dropHit event
      else
        (round.dropHit event).turnIfPending event.1 fun turn =>
          turn.handle transport (round.hit event) :=
  rfl

theorem length_apply (transport : Transport Net Sock) (round : Round Net Sock) (step : Step Net) :
    (round.apply transport step).pairs.length = round.pairs.length := by
  cases step with
  | wait network => rfl
  | deliver event =>
      change (round.deliver transport event).pairs.length = _
      rw [deliver_eq]
      split
      · rfl
      · exact length_turnIfPending (round.dropHit event) event.1 _
  | sweep ordinal event => exact length_turnIfPending (round.dropWanted ordinal) ordinal _
  | finish ordinal => exact length_turn round ordinal _

theorem length_replay (transport : Transport Net Sock) (round : Round Net Sock)
    (steps : List (Step Net)) :
    (round.replay transport steps).pairs.length = round.pairs.length := by
  induction steps generalizing round with
  | nil => rfl
  | cons step steps ih => rw [replay_cons, ih, length_apply]

theorem length_startAll (transport : Transport Net Sock) (round : Round Net Sock) :
    (round.startAll transport).pairs.length = round.pairs.length := by
  unfold startAll eachPair
  induction List.range round.pairs.length generalizing round with
  | nil => rfl
  | cons ordinal ordinals ih => rw [List.foldl_cons, ih, length_turnIfPending]

theorem pairs_record (round : Round Net Sock) (outcome : Outcome) :
    (round.record outcome).pairs = round.pairs := by
  cases outcome <;> rfl

theorem execute_of_loop {last : Round Net Sock} {timeout : Duration} {outcome : Outcome}
    (ended : (round.startAll transport).loop transport (round.allowed transport timeout) =
      (outcome, last)) :
    round.execute transport timeout = (outcome, (last.finishAll transport).record outcome) := by
  unfold execute
  rw [ended]

theorem execute_outcome (transport : Transport Net Sock) (round : Round Net Sock)
    (timeout : Duration) :
    (round.execute transport timeout).1 =
      ((round.startAll transport).loop transport (round.allowed transport timeout)).1 := by
  cases ended : (round.startAll transport).loop transport (round.allowed transport timeout) with
  | mk outcome last => rw [execute_of_loop ended]

/-- A round is its first turns and then its steps. -/
theorem execute_eq_replay (transport : Transport Net Sock) (round : Round Net Sock)
    (timeout : Duration) :
    (round.execute transport timeout).2 =
      ((round.startAll transport).replay transport (round.steps transport timeout)).record
        (round.execute transport timeout).1 := by
  cases ended : (round.startAll transport).loop transport (round.allowed transport timeout) with
  | mk outcome last =>
      have looped := @loop_eq_replay _ _ transport (round.startAll transport)
        (round.allowed transport timeout)
      rw [ended] at looped
      dsimp only at looped
      have length : last.pairs.length = round.pairs.length := by
        rw [looped, length_replay, length_startAll]
      rw [execute_of_loop ended, steps, replay_append, ← looped, replay_finish, ← length]
      rfl

theorem execute_pairs (transport : Transport Net Sock) (round : Round Net Sock)
    (timeout : Duration) :
    (round.execute transport timeout).2.pairs =
      ((round.startAll transport).replay transport (round.steps transport timeout)).pairs := by
  rw [execute_eq_replay, pairs_record]

end Fanout.Round
