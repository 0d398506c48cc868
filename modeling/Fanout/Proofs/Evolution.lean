import Fanout.Proofs.Settling
import Fanout.Proofs.Usage

/-!
A round as changes of its batches. Whatever a connection does in its turn makes changes of the batch
that it serves, and all batches of a round report to the same counters; so a round is a sequence of
changes, each of one batch.
-/

set_option autoImplicit false

namespace Fanout

open Batch (Change Changes)

variable {Net Sock : Type} {transport : Transport Net Sock}

/-- How a parser stands to the receive buffer that it reads: running it keeps that, and so does
everything that happens to the buffer, and the replies that it finds are admitted. -/
structure Follows (admits : Buffer → Reply → Prop) (sound : Parser → Buffer → Prop) : Prop where
  runs : ∀ {parser : Parser} {buffer : Buffer}, sound parser buffer →
    sound (parser.run buffer.filled).1 buffer
  admitted : ∀ {parser next : Parser} {buffer : Buffer} {reply : Reply}, sound parser buffer →
    parser.run buffer.filled = (next, .complete reply) → admits buffer reply
  grows : ∀ {parser : Parser} {amount : Nat} {before after : Metered Buffer},
    sound parser before.item → Buffer.ensureRemaining amount before = .ok () after →
    sound parser after.item
  stores : ∀ {parser : Parser} {buffer : Buffer} {bytes : ByteArray}, sound parser buffer →
    buffer.Fits bytes → sound parser (buffer.store bytes)

def unchecked : Buffer → Reply → Prop := fun _ _ => True

theorem follows_unchecked : Follows unchecked fun _ _ => True :=
  ⟨fun _ => trivial, fun _ _ => trivial, fun _ _ => trivial, fun _ _ => trivial⟩

section Follows

variable {admits : Buffer → Reply → Prop} {sound : Parser → Buffer → Prop} {parser : Parser}
  {bytes : ByteArray}

theorem Follows.change {before after : Metered Batch} (follows : Follows admits sound)
    (holds : sound parser before.item.readBuffer) (change : Change admits before bytes after) :
    sound parser after.item.readBuffer := by
  cases change with
  | flipped =>
      have same : before.item.startSending.readBuffer = before.item.readBuffer := by
        unfold Batch.startSending
        split <;> rfl
      rwa [← same] at holds
  | receiveRoom ensured => exact follows.grows holds ensured
  | received bytes fits => exact follows.stores holds fits
  | _ => exact holds

theorem Follows.changes {before after : Metered Batch} (follows : Follows admits sound)
    (holds : sound parser before.item.readBuffer) (changes : Changes admits before bytes after) :
    sound parser after.item.readBuffer :=
  @Changes.kept _ _ _ _ (fun state => sound parser state.item.readBuffer) changes holds
    fun kept change => follows.change kept change

/-! ### Turns -/

namespace Intake

def state (intake : Intake Sock) : Metered Batch := ⟨intake.batch, intake.memory⟩

theorem receive_changes {intake next : Intake Sock} {result : Except Failure Nat}
    (received : intake.receive transport = (result, next)) :
    Changes admits intake.state
      (Buffer.delivered transport.receive intake.socket ⟨intake.batch.readBuffer, intake.memory⟩)
      next.state := by
  have changes := @Batch.receive_changes admits intake.state _ transport.receive intake.socket
  unfold receive at received
  cases got : Buffer.receive transport.receive intake.socket
      ⟨intake.batch.readBuffer, intake.memory⟩ with
  | mk answer rest =>
      obtain ⟨changed, later⟩ := rest
      rw [got] at received
      cases received
      exact changes got

/-- Asking the socket once more, when the parser has found no whole reply. -/
theorem incomplete_changes (follows : Follows admits sound) {intake next : Intake Sock}
    {result : Except Failure Nat} (holds : sound intake.parser intake.batch.readBuffer)
    (ran : intake.parser.run intake.batch.readBuffer.filled = (parser, .incomplete))
    (received : receive transport { intake with parser := parser } = (result, next)) :
    Changes admits intake.state
        (Buffer.delivered transport.receive intake.socket
          ⟨intake.batch.readBuffer, intake.memory⟩)
        next.state ∧
      sound next.parser next.batch.readBuffer := by
  have kept := follows.runs holds
  rw [ran] at kept
  have changes := @receive_changes _ _ transport admits _ _ _ received
  refine ⟨changes, ?_⟩
  rw [parser_receive received]
  exact follows.changes kept changes

/-- Receiving makes changes, and the parser keeps up with the receive buffer. -/
theorem run_changes (follows : Follows admits sound) (transport : Transport Net Sock)
    (intake : Intake Sock) (holds : sound intake.parser intake.batch.readBuffer) :
    Changes admits intake.state (intake.heard transport) (intake.run transport).2.state ∧
      sound (intake.run transport).2.parser (intake.run transport).2.batch.readBuffer := by
  fun_induction run transport intake with
  | case1 intake done =>
      rw [heard, if_pos done]
      exact ⟨.refl, holds⟩
  | case2 intake busy parser reply ran ih =>
      have kept := follows.runs holds
      rw [ran] at kept
      have answered : Changes admits intake.state .empty
          (state { intake with parser := parser, batch := intake.batch.answer reply }) :=
        .one (.answered (Nat.pos_of_ne_zero busy) (follows.admitted holds ran))
      obtain ⟨rest, ends⟩ := ih kept
      have all := answered.trans rest
      rw [ByteArray.empty_append] at all
      rw [heard, if_neg busy, ran]
      exact ⟨all, ends⟩
  | case3 intake busy parser error ran =>
      have kept := follows.runs holds
      rw [ran] at kept
      rw [heard, if_neg busy, ran]
      exact ⟨.refl, kept⟩
  | case4 intake busy parser ran next received =>
      rw [heard_of_stops busy ran received rfl]
      exact incomplete_changes follows holds ran received
  | case5 intake busy parser ran count next received ih =>
      obtain ⟨changes, kept⟩ := incomplete_changes follows holds ran received
      obtain ⟨rest, ends⟩ := ih kept
      rw [heard_of_asksAgain busy ran received rfl]
      exact ⟨changes.trans rest, ends⟩
  | case6 intake busy parser ran next received =>
      rw [heard_of_stops busy ran received rfl]
      exact incomplete_changes follows holds ran received
  | case7 intake busy parser ran next received ih =>
      obtain ⟨changes, kept⟩ := incomplete_changes follows holds ran received
      obtain ⟨rest, ends⟩ := ih kept
      rw [heard_of_asksAgain busy ran received rfl]
      exact ⟨changes.trans rest, ends⟩
  | case8 intake busy parser ran failure next blocked interrupted received =>
      have changes := incomplete_changes follows holds ran received
      rw [heard_of_stops busy ran received (stops_of_failure interrupted)]
      exact changes

end Intake

/-- Sending moves the position of the send buffer and nothing else of it. -/
theorem sendPending_position (transport : Transport Net Sock) (buffer : Buffer) (socket : Sock) :
    ∃ position ≤ max buffer.position buffer.limit,
      (sendPending transport buffer socket).2.1 = { buffer with position := position } := by
  have once : ∀ {buffer after : Buffer} {socket later : Sock} {result : Except IoError Nat},
      buffer.send transport.send socket = (result, after, later) →
      ∃ position ≤ max buffer.position buffer.limit,
        after = { buffer with position := position } := by
    intro buffer after socket later result sent
    have moved := buffer.send_position transport.send socket
    rwa [sent] at moved
  have again : ∀ {buffer : Buffer} {position last : Nat},
      position ≤ max buffer.position buffer.limit → last ≤ max position buffer.limit →
      last ≤ max buffer.position buffer.limit := by
    intro buffer position last first second
    omega
  fun_induction sendPending transport buffer socket with
  | case1 buffer socket none => exact ⟨buffer.position, Nat.le_max_left _ _, rfl⟩
  | case2 buffer socket more after later sent => exact once sent
  | case3 buffer socket more count after later sent ih =>
      obtain ⟨_, within, rfl⟩ := once sent
      obtain ⟨last, inside, same⟩ := ih
      exact ⟨last, again within inside, same⟩
  | case4 buffer socket more after later sent => exact once sent
  | case5 buffer socket more after later sent ih =>
      obtain ⟨_, within, rfl⟩ := once sent
      obtain ⟨last, inside, same⟩ := ih
      exact ⟨last, again within inside, same⟩
  | case6 buffer socket more error after later other other' sent => exact once sent

namespace Turn

variable {turn before after : Turn Net Sock}

def state (turn : Turn Net Sock) : Metered Batch := ⟨turn.batch, turn.memory⟩

def Sound (sound : Parser → Buffer → Prop) (turn : Turn Net Sock) : Prop :=
  sound turn.connection.parser turn.batch.readBuffer

theorem abort_memory (transport : Transport Net Sock) (turn : Turn Net Sock) (cause : AbortCause) :
    (turn.abort transport cause).memory = turn.memory := by
  unfold abort dropSocket
  split
  · rfl
  · dsimp only
    split <;> rfl

theorem parser_abort (transport : Transport Net Sock) (turn : Turn Net Sock) (cause : AbortCause) :
    (turn.abort transport cause).connection.parser = turn.connection.parser := by
  unfold abort dropSocket
  split
  · rfl
  · dsimp only
    split <;> rfl

theorem abort_changes (transport : Transport Net Sock) (turn : Turn Net Sock)
    (cause : AbortCause) : Changes admits turn.state .empty (turn.abort transport cause).state := by
  unfold state
  rw [abort_memory]
  cases gone : turn.connection.link.isAborted with
  | true =>
      rw [abort_of_aborted gone]
      exact .refl
  | false =>
      rw [abort_batch gone]
      cases aborted : turn.batch.isAborted with
      | true =>
          rw [if_pos rfl]
          exact .refl
      | false =>
          rw [if_neg Bool.false_ne_true]
          have plain := Batch.abortText_of_unaborted aborted
          exact .one (@Change.failed admits ⟨turn.batch, turn.memory⟩ _ plain)

theorem abort_follows (follows : Follows admits sound) (transport : Transport Net Sock)
    (holds : turn.Sound sound) (cause : AbortCause) :
    Changes admits turn.state .empty (turn.abort transport cause).state ∧
      (turn.abort transport cause).Sound sound := by
  have changes := @abort_changes _ _ admits transport turn cause
  have before : sound turn.connection.parser turn.state.item.readBuffer := holds
  refine ⟨changes, ?_⟩
  unfold Sound
  rw [parser_abort]
  exact follows.changes before changes

/-- Every move of a turn makes changes of its batch. -/
theorem Move.changes (follows : Follows admits sound) (holds : before.Sound sound)
    (move : Move transport before bytes after) :
    Changes admits before.state bytes after.state ∧ after.Sound sound := by
  cases move with
  | @unreachable dialing network cause closed dials =>
      exact @abort_follows _ _ _ _ { before with network := network } follows transport holds cause
  | opened closed dials => exact ⟨.refl, holds⟩
  | shaken connecting shakes => exact ⟨.refl, holds⟩
  | established connecting shakes => exact ⟨.refl, holds⟩
  | asked known asks => exact ⟨.refl, holds⟩
  | @sent socket later ended buffer connected sends =>
      obtain ⟨position, within, moved⟩ :=
        sendPending_position transport before.batch.writeBuffer socket
      rw [sends] at moved
      cases moved
      exact ⟨.one (@Change.sent admits before.state position within), holds⟩
  | @received socket ended intake connected runs fine =>
      have changes := Intake.run_changes follows transport (before.intake socket) holds
      rw [runs] at changes
      exact changes
  | @lost socket cause intake connected runs =>
      obtain ⟨changes, kept⟩ := Intake.run_changes follows transport (before.intake socket) holds
      rw [runs] at changes kept
      obtain ⟨gone, ends⟩ := @abort_follows _ _ _ _ (before.withIntake intake) follows transport
        kept cause
      have all := changes.trans gone
      rw [ByteArray.append_empty] at all
      exact ⟨all, ends⟩
  | gaveUp alive => exact abort_follows follows transport holds _
  | broke known asks => exact ⟨.refl, holds⟩

theorem Moves.changes (follows : Follows admits sound) (holds : before.Sound sound)
    (moves : Moves transport before bytes after) :
    Changes admits before.state bytes after.state ∧ after.Sound sound := by
  induction moves with
  | refl => exact ⟨.refl, holds⟩
  | step moves busy move ih =>
      obtain ⟨changes, kept⟩ := ih
      obtain ⟨more, ends⟩ := move.changes follows kept
      exact ⟨changes.trans more, ends⟩

def Changing (act : Turn Net Sock → Turn Net Sock) : Prop :=
  ∀ turn : Turn Net Sock, 0 < turn.batch.pending →
    ∃ bytes, Changes unchecked turn.state bytes (act turn).state

theorem changing_start (transport : Transport Net Sock) : Changing (Turn.start transport) := by
  intro turn busy
  have flipped : Changes unchecked turn.state .empty turn.prepare.state := .one .flipped
  have moves := (@start_moves _ _ transport _ busy).changes follows_unchecked trivial
  exact ⟨_, flipped.trans moves.1⟩

theorem changing_handle (transport : Transport Net Sock) (event : Readiness) :
    Changing fun turn : Turn Net Sock => turn.handle transport event := by
  intro turn busy
  have moves := (@handle_moves _ _ transport _ busy event).changes follows_unchecked trivial
  exact ⟨_, moves.1⟩

theorem leave_state (transport : Transport Net Sock) (turn : Turn Net Sock) :
    (turn.leave transport).state = turn.state := by
  unfold leave finish
  cases turn.connection.link.socket? <;> rfl

end Turn

end Follows

/-! ### Rounds -/

inductive Batch.Evolve (before : Metered (List Batch)) : Metered (List Batch) → Prop where
  | refl : Evolve before before
  | step {middle : Metered (List Batch)} {index : Nat} {batch : Batch} {bytes : ByteArray}
      {after : Metered Batch} (evolve : Evolve before middle)
      (present : middle.item[index]? = some batch)
      (changes : Changes unchecked ⟨batch, middle.memory⟩ bytes after) :
      Evolve before ⟨middle.item.set index after.item, after.memory⟩

theorem Batch.Evolve.trans {before middle after : Metered (List Batch)}
    (first : Evolve before middle) (second : Evolve middle after) : Evolve before after := by
  induction second with
  | refl => exact first
  | step evolve present changes ih => exact .step ih present changes

namespace Round

variable {round before middle after : Round Net Sock} {act : Turn Net Sock → Turn Net Sock}

def batches (round : Round Net Sock) : Metered (List Batch) :=
  ⟨round.pairs.map Pair.batch, round.engine.memory⟩

structure Evolves (before after : Round Net Sock) : Prop where
  batches : Batch.Evolve before.batches after.batches
  config : after.engine.config = before.engine.config
  pool : after.engine.pool = before.engine.pool

theorem Evolves.refl (round : Round Net Sock) : Evolves round round := ⟨.refl, rfl, rfl⟩

theorem Evolves.trans (first : Evolves before middle) (second : Evolves middle after) :
    Evolves before after :=
  ⟨first.batches.trans second.batches, second.config.trans first.config,
    second.pool.trans first.pool⟩

theorem turnIfPending_evolves (changing : Turn.Changing act) (round : Round Net Sock)
    (ordinal : Nat) : Evolves round (round.turnIfPending ordinal act) := by
  rcases turnIfPending_cases round ordinal act with ⟨_, same⟩ | ⟨pair, present, busy, same⟩
  · rw [same]
    exact .refl round
  · obtain ⟨bytes, changes⟩ := changing _ busy
    have there : round.batches.item[ordinal]? = some pair.batch := by
      unfold batches
      rw [List.getElem?_map, present]
      rfl
    have evolve := Batch.Evolve.step .refl there changes
    rw [same]
    unfold turn
    rw [present]
    refine ⟨?_, rfl, rfl⟩
    unfold batches at evolve ⊢
    rwa [List.map_set]

theorem leave_evolves (transport : Transport Net Sock) (round : Round Net Sock) (ordinal : Nat) :
    Evolves round (round.turn ordinal (Turn.leave transport)) := by
  cases present : round.pairs[ordinal]? with
  | none =>
      rw [turn_of_none present]
      exact .refl round
  | some pair =>
      have pairs := leave_pairs transport round ordinal
      have memory : ((round.seat ordinal pair).leave transport).memory = round.engine.memory :=
        congrArg Metered.memory (Turn.leave_state transport (round.seat ordinal pair))
      have same : (round.turn ordinal (Turn.leave transport)).batches = round.batches := by
        unfold batches
        rw [pairs]
        unfold turn
        rw [present]
        exact congrArg _ memory
      refine ⟨?_, ?_, ?_⟩
      · rw [same]
        exact .refl
      · unfold turn
        rw [present]
      · unfold turn
        rw [present]

/-- Every step of a round makes its batches evolve. -/
theorem apply_evolves (transport : Transport Net Sock) (round : Round Net Sock)
    (step : Step Net) : Evolves round (round.apply transport step) := by
  cases step with
  | wait network => exact ⟨.refl, rfl, rfl⟩
  | deliver event =>
      have dropped : Evolves round (round.dropHit event) := ⟨.refl, rfl, rfl⟩
      change Evolves round (round.deliver transport event)
      rw [deliver_eq]
      split
      · exact dropped
      · exact dropped.trans (turnIfPending_evolves (Turn.changing_handle transport _) _ _)
  | sweep ordinal event =>
      have dropped : Evolves round (round.dropWanted ordinal) := ⟨.refl, rfl, rfl⟩
      exact dropped.trans (turnIfPending_evolves (Turn.changing_handle transport event) _ _)
  | finish ordinal => exact leave_evolves transport round ordinal

theorem replay_evolves (transport : Transport Net Sock) (round : Round Net Sock)
    (steps : List (Step Net)) : Evolves round (round.replay transport steps) := by
  induction steps generalizing round with
  | nil => exact .refl round
  | cons step steps ih => exact (apply_evolves transport round step).trans (ih _)

theorem startAll_evolves (transport : Transport Net Sock) (round : Round Net Sock) :
    Evolves round (round.startAll transport) := by
  unfold startAll eachPair
  induction List.range round.pairs.length generalizing round with
  | nil => exact .refl round
  | cons ordinal ordinals ih =>
      rw [List.foldl_cons]
      exact (turnIfPending_evolves (Turn.changing_start transport) round ordinal).trans (ih _)

/-- A round that has made `count` of its steps. -/
def midway {Place : Type → Type} [Serving Place] (transport : Transport Net Sock)
    (round : Round Net Sock Place) (timeout : Duration) (count : Nat) : Round Net Sock Place :=
  (round.startAll transport).replay transport ((round.steps transport timeout).take count)

theorem midway_evolves (transport : Transport Net Sock) (round : Round Net Sock)
    (timeout : Duration) (count : Nat) : Evolves round (round.midway transport timeout count) :=
  (startAll_evolves transport round).trans (replay_evolves transport _ _)

theorem midway_on (transport : Transport Net Sock) (round : Round Net Sock) (timeout : Duration)
    {count later : Nat} (less : count ≤ later) :
    Evolves (round.midway transport timeout count) (round.midway transport timeout later) := by
  obtain ⟨rest, same⟩ := List.take_prefix_take_left (l := round.steps transport timeout) less
  unfold midway
  rw [← same, replay_append]
  exact replay_evolves transport _ _

theorem record_evolves (round : Round Net Sock) (outcome : Outcome) :
    Evolves round (round.record outcome) := by
  cases outcome <;> exact ⟨.refl, rfl, rfl⟩

/-- Wherever a round stands, it goes on to its end. -/
theorem execute_evolves (transport : Transport Net Sock) (round : Round Net Sock)
    (timeout : Duration) (count : Nat) :
    Evolves (round.midway transport timeout count) (round.execute transport timeout).2 := by
  have rest := replay_evolves transport (round.midway transport timeout count)
    ((round.steps transport timeout).drop count)
  unfold midway at rest ⊢
  rw [← replay_append, List.take_append_drop] at rest
  rw [execute_eq_replay]
  exact rest.trans (record_evolves _ _)

end Round

end Fanout
