import Fanout.Proofs.Script

/-!
What a round does to one pair. A pair whose batch has nothing pending is left alone; any other one
makes moves from where it enters the round to where it leaves it, and receives what is marked on
them.
-/

set_option autoImplicit false

namespace Fanout

variable {Net Sock : Type}

def Pair.prepared (pair : Pair Sock) : Pair Sock :=
  { connection :=
      { pair.connection with
        link := if pair.connection.link.isAborted then .closed else pair.connection.link
        parser := {} }
    batch := pair.batch.startSending }

theorem Pair.prepared_batch (pair : Pair Sock) :
    pair.prepared.batch.readBuffer = pair.batch.readBuffer ∧
      pair.prepared.batch.pending = pair.batch.pending ∧
      pair.prepared.batch.replies = pair.batch.replies ∧
      pair.prepared.batch.abortText = pair.batch.abortText := by
  unfold prepared Batch.startSending
  dsimp only
  split <;> exact ⟨rfl, rfl, rfl, rfl⟩

theorem Pair.prepared_alive (pair : Pair Sock) :
    pair.prepared.connection.link.isAborted = false := by
  unfold prepared
  dsimp only
  split
  · rfl
  · rename_i other
    exact Bool.eq_false_iff.mpr other

def Turn.pair (turn : Turn Net Sock) : Pair Sock := ⟨turn.connection, turn.batch⟩

inductive Served (transport : Transport Net Sock) (before : Pair Sock) :
    ByteArray → Pair Sock → Prop where
  | entered : Served transport before .empty before
  | move {bytes more : ByteArray} {middle after : Turn Net Sock}
      (served : Served transport before bytes middle.pair) (busy : 0 < middle.batch.pending)
      (move : Turn.Move transport middle more after) :
      Served transport before (bytes ++ more) after.pair

namespace Round

variable (transport : Transport Net Sock)

def handleHears (round : Round Net Sock) (ordinal : Nat) (event : Readiness) : ByteArray :=
  match round.pairs[ordinal]? with
  | none => .empty
  | some pair =>
      if pair.batch.hasPending then (round.seat ordinal pair).heard transport event else .empty

def hears (round : Round Net Sock) (ordinal : Nat) : Step Net → ByteArray
  | .deliver event =>
      if event.1 = ordinal ∧ (round.hit event).isEmpty = false then
        (round.dropHit event).handleHears transport ordinal (round.hit event)
      else .empty
  | .sweep swept event =>
      if swept = ordinal then (round.dropWanted ordinal).handleHears transport ordinal event
      else .empty
  | _ => .empty

def heardIn (round : Round Net Sock) (ordinal : Nat) : List (Step Net) → ByteArray
  | [] => .empty
  | step :: steps =>
      round.hears transport ordinal step ++
        heardIn (round.apply transport step) ordinal steps

/-- All bytes that a pair receives in a round. The first turns receive nothing. -/
def heard (round : Round Net Sock) (timeout : Duration) (ordinal : Nat) : ByteArray :=
  (round.startAll transport).heardIn transport ordinal (round.steps transport timeout)

def handleTally (measure : Turn Net Sock → Readiness → ByteArray) (round : Round Net Sock)
    (ordinal : Nat) (event : Readiness) : ByteArray :=
  match round.pairs[ordinal]? with
  | none => .empty
  | some pair =>
      if pair.batch.hasPending then measure (round.seat ordinal pair) event else .empty

def stepTally (measure : Turn Net Sock → Readiness → ByteArray) (round : Round Net Sock)
    (ordinal : Nat) : Step Net → ByteArray
  | .deliver event =>
      if event.1 = ordinal ∧ (round.hit event).isEmpty = false then
        (round.dropHit event).handleTally measure ordinal (round.hit event)
      else .empty
  | .sweep swept event =>
      if swept = ordinal then (round.dropWanted ordinal).handleTally measure ordinal event
      else .empty
  | _ => .empty

def tally (measure : Turn Net Sock → Readiness → ByteArray) (round : Round Net Sock)
    (ordinal : Nat) : List (Step Net) → ByteArray
  | [] => .empty
  | step :: steps =>
      round.stepTally measure ordinal step ++
        tally measure (round.apply transport step) ordinal steps

/-- A relation between a pair and what it moved so far that every turn keeps. -/
def Kept (measure : Turn Net Sock → Readiness → ByteArray)
    (relation : ByteArray → Pair Sock → Prop) : Prop :=
  ∀ (turn : Turn Net Sock) (event : Readiness) (bytes : ByteArray), 0 < turn.batch.pending →
    relation bytes turn.pair →
    relation (bytes ++ measure turn event) (turn.handle transport event).pair

end Round

variable {transport : Transport Net Sock} {entry pair : Pair Sock} {bytes : ByteArray}

theorem Served.moves {more : ByteArray} {middle after : Turn Net Sock}
    (served : Served transport entry bytes middle.pair)
    (moves : Turn.Moves transport middle more after) :
    Served transport entry (bytes ++ more) after.pair := by
  induction moves with
  | refl =>
      rw [ByteArray.append_empty]
      exact served
  | step moves busy move ih =>
      rw [← ByteArray.append_assoc]
      exact .move ih busy move

namespace Round

variable {round : Round Net Sock} {ordinal : Nat}

/-! ### What a pair moves -/

section Tally

variable {measure : Turn Net Sock → Readiness → ByteArray}
  {relation : ByteArray → Pair Sock → Prop}

theorem handle_kept (kept : Kept transport measure relation) (round : Round Net Sock)
    (present : round.pairs[ordinal]? = some pair) (holds : relation bytes pair)
    (event : Readiness) :
    ∃ after,
      (round.turnIfPending ordinal fun turn => turn.handle transport event).pairs[ordinal]? =
        some after ∧
      relation (bytes ++ round.handleTally measure ordinal event) after := by
  unfold handleTally
  rw [present]
  cases busy : pair.batch.hasPending with
  | false =>
      rw [turnIfPending_of_answered ((isPending_eq present).trans busy)]
      refine ⟨pair, present, ?_⟩
      dsimp only
      rw [busy, if_neg Bool.false_ne_true, ByteArray.append_empty]
      exact holds
  | true =>
      have missing : 0 < (round.seat ordinal pair).batch.pending := of_decide_eq_true busy
      rw [turnIfPending_of_pending ((isPending_eq present).trans busy), turn_own present]
      refine ⟨_, rfl, ?_⟩
      dsimp only
      rw [busy, if_pos rfl]
      exact kept (round.seat ordinal pair) event bytes missing holds

theorem wait_kept (present : round.pairs[ordinal]? = some pair) (holds : relation bytes pair) :
    ∃ after, round.pairs[ordinal]? = some after ∧ relation (bytes ++ ByteArray.empty) after := by
  refine ⟨pair, present, ?_⟩
  rw [ByteArray.append_empty]
  exact holds

theorem apply_kept (kept : Kept transport measure relation)
    (present : round.pairs[ordinal]? = some pair) (holds : relation bytes pair)
    (step : Step Net) :
    ∃ after, (round.apply transport step).pairs[ordinal]? = some after ∧
      relation (bytes ++ round.stepTally measure ordinal step) after := by
  cases step with
  | wait network => exact wait_kept present holds
  | deliver event =>
      change ∃ after, (round.deliver transport event).pairs[ordinal]? = some after ∧ _
      rw [deliver_eq]
      unfold stepTally
      dsimp only
      by_cases missed : (round.hit event).isEmpty = true
      · rw [if_pos missed, if_neg (by rw [missed]; exact fun both => nomatch both.2)]
        exact wait_kept present holds
      · rw [if_neg missed]
        by_cases own : event.1 = ordinal
        · subst own
          rw [if_pos ⟨rfl, by simpa using missed⟩]
          exact handle_kept kept (round.dropHit event) present holds _
        · rw [if_neg fun both => own both.1, turnIfPending_others (Ne.symm own)]
          exact wait_kept present holds
  | sweep swept event =>
      change ∃ after, ((round.dropWanted swept).turnIfPending swept fun turn =>
        turn.handle transport event).pairs[ordinal]? = some after ∧ _
      unfold stepTally
      dsimp only
      by_cases own : swept = ordinal
      · subst own
        rw [if_pos rfl]
        exact handle_kept kept (round.dropWanted swept) present holds event
      · rw [if_neg own, turnIfPending_others (Ne.symm own)]
        exact wait_kept present holds
  | finish finished =>
      change ∃ after, (round.turn finished (Turn.leave transport)).pairs[ordinal]? = some after ∧ _
      rw [leave_pairs]
      exact wait_kept present holds

/-- What every turn keeps holds after any steps, with all that the pair moved in them. -/
theorem replay_kept (kept : Kept transport measure relation) (steps : List (Step Net))
    (present : round.pairs[ordinal]? = some pair) (holds : relation bytes pair) :
    ∃ after, (round.replay transport steps).pairs[ordinal]? = some after ∧
      relation (bytes ++ round.tally transport measure ordinal steps) after := by
  induction steps generalizing round pair bytes with
  | nil => exact wait_kept present holds
  | cons step steps ih =>
      obtain ⟨middle, there, holds⟩ := apply_kept kept present holds step
      obtain ⟨after, there, holds⟩ := ih there holds
      rw [ByteArray.append_assoc] at holds
      exact ⟨after, there, holds⟩

end Tally

theorem heardIn_eq_tally (round : Round Net Sock) (ordinal : Nat) (steps : List (Step Net)) :
    round.heardIn transport ordinal steps =
      round.tally transport (Turn.heard transport) ordinal steps := by
  have alike : ∀ (round : Round Net Sock) (step : Step Net),
      round.hears transport ordinal step =
        round.stepTally (Turn.heard transport) ordinal step := by
    intro round step
    cases step <;> rfl
  induction steps generalizing round with
  | nil => rfl
  | cons step steps ih => rw [heardIn, tally, alike, ih]

theorem served_kept : Kept transport (Turn.heard transport) (Served transport entry) :=
  fun turn event _ busy served => @Served.moves _ _ _ _ _ _ turn _ served
    (Turn.handle_moves busy event)

theorem replay_served (steps : List (Step Net)) (present : round.pairs[ordinal]? = some pair)
    (served : Served transport entry bytes pair) :
    ∃ after, (round.replay transport steps).pairs[ordinal]? = some after ∧
      Served transport entry (bytes ++ round.heardIn transport ordinal steps) after := by
  rw [heardIn_eq_tally]
  exact replay_kept served_kept steps present served

def Begins (transport : Transport Net Sock) (before after : Option (Pair Sock)) : Prop :=
  ∀ pair, before = some pair → pair.batch.hasPending = true →
    ∃ begun, after = some begun ∧ Served transport pair.prepared .empty begun

theorem start_begins (round : Round Net Sock) (ordinal : Nat) :
    Begins transport round.pairs[ordinal]?
      (round.turnIfPending ordinal (Turn.start transport)).pairs[ordinal]? := by
  intro pair present busy
  have missing : 0 < (round.seat ordinal pair).batch.pending := of_decide_eq_true busy
  rw [turnIfPending_of_pending ((isPending_eq present).trans busy), turn_own present]
  refine ⟨_, rfl, ?_⟩
  have moves := @Turn.start_moves _ _ transport _ missing
  have begun := @Served.entered _ _ transport pair.prepared
  have served := @Served.moves _ _ _ _ _ _ (round.seat ordinal pair).prepare _ begun moves
  rwa [ByteArray.append_empty] at served

theorem startAll_begins (inside : ordinal < round.pairs.length) :
    Begins transport round.pairs[ordinal]? (round.startAll transport).pairs[ordinal]? :=
  @eachPair_own _ _ _ _ _ (fun round ordinal => round.pairs[ordinal]?) _ (Begins transport)
    (fun _ _ _ apart => turnIfPending_others apart _) start_begins inside

/-- Over a whole round a pair with pending commands makes moves from where it enters. -/
theorem execute_served (transport : Transport Net Sock) (timeout : Duration)
    (present : round.pairs[ordinal]? = some pair) (busy : pair.batch.hasPending = true) :
    ∃ after, (round.execute transport timeout).2.pairs[ordinal]? = some after ∧
      Served transport pair.prepared (round.heard transport timeout ordinal) after := by
  have inside := (List.getElem?_eq_some_iff.mp present).1
  obtain ⟨begun, there, served⟩ := @startAll_begins _ _ transport _ _ inside pair present busy
  obtain ⟨after, there, served⟩ := replay_served (round.steps transport timeout) there served
  rw [ByteArray.empty_append] at served
  rw [execute_pairs]
  exact ⟨after, there, served⟩

/-! ### Pairs without pending commands -/

theorem turnIfPending_idle (round : Round Net Sock) (present : round.pairs[ordinal]? = some pair)
    (idle : pair.batch.hasPending = false) (other : Nat) (act : Turn Net Sock → Turn Net Sock) :
    (round.turnIfPending other act).pairs[ordinal]? = some pair := by
  by_cases own : other = ordinal
  · subst own
    rw [turnIfPending_of_answered ((isPending_eq present).trans idle)]
    exact present
  · rw [turnIfPending_others (Ne.symm own)]
    exact present

theorem apply_idle (present : round.pairs[ordinal]? = some pair)
    (idle : pair.batch.hasPending = false) (step : Step Net) :
    (round.apply transport step).pairs[ordinal]? = some pair := by
  cases step with
  | wait network => exact present
  | deliver event =>
      change (round.deliver transport event).pairs[ordinal]? = some pair
      rw [deliver_eq]
      split
      · exact present
      · exact turnIfPending_idle (round.dropHit event) present idle _ _
  | sweep swept event => exact turnIfPending_idle (round.dropWanted swept) present idle _ _
  | finish finished =>
      change (round.turn finished (Turn.leave transport)).pairs[ordinal]? = some pair
      rw [leave_pairs]
      exact present

theorem replay_idle (steps : List (Step Net)) (present : round.pairs[ordinal]? = some pair)
    (idle : pair.batch.hasPending = false) :
    (round.replay transport steps).pairs[ordinal]? = some pair := by
  induction steps generalizing round with
  | nil => exact present
  | cons step steps ih => exact ih (apply_idle present idle step)

/-- Such a pair moves nothing in the steps of a round. -/
theorem tally_idle (measure : Turn Net Sock → Readiness → ByteArray)
    (present : round.pairs[ordinal]? = some pair) (idle : pair.batch.hasPending = false)
    (steps : List (Step Net)) : round.tally transport measure ordinal steps = .empty := by
  have unmoved : Kept transport measure fun bytes other => bytes = .empty ∧ other = pair := by
    rintro turn event bytes busy ⟨_, rfl⟩
    exact absurd (decide_eq_true busy) (Bool.eq_false_iff.mp idle)
  obtain ⟨_, _, nothing, _⟩ := replay_kept unmoved steps present ⟨rfl, rfl⟩
  exact nothing

theorem startAll_idle (present : round.pairs[ordinal]? = some pair)
    (idle : pair.batch.hasPending = false) :
    (round.startAll transport).pairs[ordinal]? = some pair := by
  unfold startAll eachPair
  generalize List.range round.pairs.length = ordinals
  induction ordinals generalizing round with
  | nil => exact present
  | cons first rest ih => exact ih (turnIfPending_idle round present idle first _)

/-- A pair without pending commands leaves the round as it entered it. -/
theorem execute_idle (transport : Transport Net Sock) (timeout : Duration)
    (present : round.pairs[ordinal]? = some pair) (idle : pair.batch.hasPending = false) :
    (round.execute transport timeout).2.pairs[ordinal]? = some pair := by
  rw [execute_pairs]
  exact replay_idle _ (startAll_idle present idle) idle

theorem heard_idle (transport : Transport Net Sock) (timeout : Duration)
    (present : round.pairs[ordinal]? = some pair) (idle : pair.batch.hasPending = false) :
    round.heard transport timeout ordinal = .empty := by
  unfold heard
  rw [heardIn_eq_tally]
  exact tally_idle _ (startAll_idle present idle) idle _

end Round

end Fanout
