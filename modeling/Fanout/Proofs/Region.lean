import Fanout.Proofs.Atomicity
import Fanout.Proofs.Sending

/-!
The order of a buffer. Whatever is done with a buffer, its position is not beyond its limit, its
limit not beyond its capacity, and its capacity not below the size that it began with and not beyond
its ceiling; so nothing that is counted in the region or cut out of it is out of range. A call that
fails changes nothing, but for one: what a buffer has grown by for a source that then fails, it
keeps.
-/

set_option autoImplicit false

namespace Fanout.Buffer

variable {size ceiling amount position : Nat} {buffer : Buffer} {bytes : ByteArray}
  {memory : MemoryStats} {before after : Metered Buffer}

/-! ### Making room -/

theorem Ready.holds (ready : buffer.Ready) (writeMode : buffer.limit = buffer.capacity) :
    buffer.Holds buffer.filled :=
  ⟨rfl, writeMode, Nat.le_trans ready.ordered ready.inside⟩

/-- All that can come of making room: it takes write mode, and beyond that the ceiling decides. -/
theorem ensureRemaining_cases (ready : before.item.Ready) (limited : before.item.Limited)
    (amount : Nat) :
    (before.item.limit ≠ before.item.capacity ∧
        ensureRemaining amount before = .error (.misuse .growthInReadMode) before) ∨
      (before.item.limit = before.item.capacity ∧
        before.item.ceiling < before.item.position + amount ∧
        ensureRemaining amount before =
          .error (.outOfMemory
            ⟨min (before.item.position + amount) largestWord, before.item.ceiling⟩) before) ∨
      ∃ after, before.item.limit = before.item.capacity ∧
        before.item.position + amount ≤ before.item.ceiling ∧
        ensureRemaining amount before = .ok () after ∧ Reserves amount before after := by
  by_cases writeMode : before.item.limit = before.item.capacity
  · have holds := ready.holds writeMode
    by_cases within : before.item.position + amount ≤ before.item.ceiling
    · obtain ⟨after, ensured, reserves⟩ := ensureRemaining_reserves holds within
      exact .inr (.inr ⟨after, writeMode, within, ensured, reserves⟩)
    · have beyond := Nat.lt_of_not_le within
      exact .inr (.inl ⟨writeMode, beyond, ensureRemaining_beyond holds limited beyond⟩)
  · refine .inl ⟨writeMode, ?_⟩
    unfold ensureRemaining
    dsimp only
    rw [if_pos writeMode]

theorem Ready.ensured (ready : before.item.Ready)
    (ensured : ensureRemaining amount before = .ok () after) : after.item.Ready := by
  obtain ⟨position, writeMode, _⟩ := ensureRemaining_ok ensured
  have larger := (ensureRemaining_grows ensured).le
  have inside := Nat.le_trans ready.ordered ready.inside
  refine ⟨?_, Nat.le_of_eq writeMode⟩
  rw [position, writeMode]
  exact Nat.le_trans inside larger

theorem Ready.store (ready : buffer.Ready) (fits : buffer.Fits bytes) :
    (buffer.store bytes).Ready := by
  have room := (ready.holds fits.writeMode).room fits.room
  refine ⟨?_, ?_⟩
  · change buffer.position + bytes.size ≤ buffer.limit
    rw [fits.writeMode]
    exact room
  · rw [fits.capacity]
    exact ready.inside

/-! ### Asking a source -/

/-- All that can come of asking a source once. It is asked only in write mode and with the headroom
that was there or was made. -/
inductive Asked {σ : Type} (source : σ → Nat → ReceiveAnswer × σ) (peer : σ)
    (before : Metered Buffer) : Except Failure Nat × Metered Buffer × σ → Prop where
  | readMode (other : before.item.limit ≠ before.item.capacity) :
      Asked source peer before (.error (.misuse .growthInReadMode), before, peer)
  | refused (writeMode : before.item.limit = before.item.capacity)
      (beyond : before.item.ceiling < before.item.position + before.item.headroom) :
      Asked source peer before
        (.error (.io (.outOfMemory
          ⟨min (before.item.position + before.item.headroom) largestWord, before.item.ceiling⟩)),
          before, peer)
  | failed {ready : Metered Buffer} {error : IoError} {later : σ}
      (ensured : ensureRemaining before.item.headroom before = .ok () ready)
      (reserves : Reserves before.item.headroom before ready)
      (answers : source peer ready.item.remaining = (.fails error, later)) :
      Asked source peer before (.error (.io error), ready, later)
  | delivered {ready : Metered Buffer} {bytes : ByteArray} {later : σ}
      (ensured : ensureRemaining before.item.headroom before = .ok () ready)
      (reserves : Reserves before.item.headroom before ready)
      (answers : source peer ready.item.remaining = (.delivers bytes, later)) :
      Asked source peer before
        (.ok (bytes.extract 0 ready.item.remaining).size,
          { ready with item := ready.item.store (bytes.extract 0 ready.item.remaining) }, later)

theorem receive_of_fails {σ : Type} {source : σ → Nat → ReceiveAnswer × σ} {peer later : σ}
    {ready : Metered Buffer} {error : IoError}
    (ensured : ensureRemaining before.item.headroom before = .ok () ready)
    (answers : source peer ready.item.remaining = (.fails error, later)) :
    receive source peer before = (.error (.io error), ready, later) := by
  unfold receive
  rw [ensured]
  dsimp only
  rw [answers]

theorem receive_of_delivers {σ : Type} {source : σ → Nat → ReceiveAnswer × σ} {peer later : σ}
    {ready : Metered Buffer} {bytes : ByteArray}
    (ensured : ensureRemaining before.item.headroom before = .ok () ready)
    (answers : source peer ready.item.remaining = (.delivers bytes, later)) :
    receive source peer before =
      (.ok (bytes.extract 0 ready.item.remaining).size,
        { ready with item := ready.item.store (bytes.extract 0 ready.item.remaining) }, later) := by
  unfold receive
  rw [ensured]
  dsimp only
  rw [answers]

theorem receive_asked {σ : Type} (ready : before.item.Ready) (limited : before.item.Limited)
    (source : σ → Nat → ReceiveAnswer × σ) (peer : σ) :
    Asked source peer before (receive source peer before) := by
  rcases ensureRemaining_cases ready limited before.item.headroom with
    ⟨other, refused⟩ | ⟨writeMode, beyond, refused⟩ | ⟨made, _, _, ensured, reserves⟩
  · unfold receive
    rw [refused]
    exact .readMode other
  · unfold receive
    rw [refused]
    exact .refused writeMode beyond
  · cases answers : source peer made.item.remaining with
    | mk answer later =>
        cases answer with
        | fails error =>
            rw [receive_of_fails ensured answers]
            exact .failed ensured reserves answers
        | delivers bytes =>
            rw [receive_of_delivers ensured answers]
            exact .delivered ensured reserves answers

theorem size_extract_le (bytes : ByteArray) (room : Nat) : (bytes.extract 0 room).size ≤ room := by
  rw [ByteArray.size_extract]
  omega

/-! ### Actions -/

inductive Action where
  | write (bytes : ByteArray)
  | ensure (amount : Nat)
  | flip
  | clear
  | fill (byte : UInt8)
  | setPosition (position : Nat)
  | setLimit (limit : Nat)
  | send (sink : ByteArray → SendAnswer)
  | receive (source : Nat → ReceiveAnswer)

def steady (source : Nat → ReceiveAnswer) (_ : Unit) (room : Nat) : ReceiveAnswer × Unit :=
  (source room, ())

def sendOnce (sink : ByteArray → SendAnswer) : Operation Unit := fun state =>
  match state.item.send (fun (_ : Unit) offered => (sink offered, ())) () with
  | (.ok _, sent, _) => .ok () { state with item := sent }
  | (.error error, kept, _) => .error (.io error) { state with item := kept }

def receiveOnce (source : Nat → ReceiveAnswer) : Operation Unit := fun state =>
  match Buffer.receive (steady source) () state with
  | (.ok _, received, _) => .ok () received
  | (.error failure, kept, _) => .error failure kept

def Action.operation : Action → Operation Unit
  | .write bytes => Buffer.write bytes
  | .ensure amount => ensureRemaining amount
  | .flip => fun state => .ok () { state with item := state.item.flip }
  | .clear => fun state => .ok () (Buffer.clear state)
  | .fill byte => fun state => .ok () { state with item := state.item.fill byte }
  | .setPosition position => Buffer.setPosition position
  | .setLimit limit => Buffer.setLimit limit
  | .send sink => sendOnce sink
  | .receive source => receiveOnce source

/-- What actions leave, whether they succeed or not. -/
def performAll (actions : List Action) (state : Metered Buffer) : Metered Buffer :=
  actions.foldl (fun state action => action.operation.leaves state) state

/-- The cursors are in their order, the buffer knows the size and the ceiling that it was made with,
and the region lies between them. -/
structure InOrder (size ceiling : Nat) (buffer : Buffer) : Prop where
  ready : buffer.Ready
  sized : buffer.Sized size ceiling
  limited : buffer.Limited

theorem inOrder_new (size ceiling : Nat) : (new size ceiling).InOrder size ceiling := by
  refine ⟨⟨Nat.zero_le _, ?_⟩, sized_new size ceiling, limited_new size ceiling⟩
  exact Nat.le_of_eq (size_solid size poisonByte).symm

namespace InOrder

theorem ensured (inOrder : before.item.InOrder size ceiling)
    (ensured : ensureRemaining amount before = .ok () after) : after.item.InOrder size ceiling :=
  ⟨inOrder.ready.ensured ensured, inOrder.sized.ensured ensured, inOrder.limited.ensured ensured⟩

theorem store (inOrder : buffer.InOrder size ceiling) (fits : buffer.Fits bytes) :
    (buffer.store bytes).InOrder size ceiling :=
  ⟨inOrder.ready.store fits, inOrder.sized.store fits, inOrder.limited.store fits⟩

/-- With the region as it is, the cursors may stand anywhere in their order. -/
theorem moved (inOrder : buffer.InOrder size ceiling) {limit : Nat} (ordered : position ≤ limit)
    (inside : limit ≤ buffer.capacity) :
    InOrder size ceiling { buffer with position := position, limit := limit } :=
  ⟨⟨ordered, inside⟩, ⟨inOrder.sized.initial, inOrder.sized.ceiling, inOrder.sized.least⟩,
    inOrder.limited⟩

theorem filled (inOrder : buffer.InOrder size ceiling) (byte : UInt8) :
    (buffer.fill byte).InOrder size ceiling := by
  obtain ⟨⟨ordered, inside⟩, ⟨initial, limit, least⟩, limited⟩ := inOrder
  have same := capacity_fill buffer byte
  refine ⟨⟨ordered, ?_⟩, ⟨initial, limit, ?_⟩, ?_⟩
  · rw [same]
    exact inside
  · rw [same]
    exact least
  · unfold Limited
    rw [same]
    exact limited

theorem cleared (inOrder : buffer.InOrder size ceiling) (memory : MemoryStats) :
    (Buffer.clear ⟨buffer, memory⟩).item.InOrder size ceiling := by
  obtain ⟨start, writeMode⟩ := clear_start ⟨buffer, memory⟩
  have initial := inOrder.sized.initial
  have within := Nat.le_trans inOrder.sized.least inOrder.limited
  refine ⟨⟨?_, Nat.le_of_eq writeMode⟩, ?_, ?_⟩
  · rw [start]
    exact Nat.zero_le _
  · unfold Buffer.clear
    dsimp only
    split
    · refine ⟨initial, inOrder.sized.ceiling, ?_⟩
      change size ≤ (solid buffer.initialCapacity 0).size
      rw [size_solid, initial]
    · exact ⟨initial, inOrder.sized.ceiling, inOrder.sized.least⟩
  · unfold Buffer.clear
    dsimp only
    split
    · change (solid buffer.initialCapacity 0).size ≤ buffer.ceiling
      rw [size_solid, initial]
      exact within
    · exact inOrder.limited

theorem sent {σ : Type} (inOrder : buffer.InOrder size ceiling)
    (sink : σ → ByteArray → SendAnswer × σ) (peer : σ) :
    (buffer.send sink peer).2.1.InOrder size ceiling := by
  obtain ⟨position, within, moved⟩ := send_position buffer sink peer
  rw [moved]
  rw [Nat.max_eq_right inOrder.ready.ordered] at within
  exact inOrder.moved within inOrder.ready.inside

theorem received {σ : Type} {source : σ → Nat → ReceiveAnswer × σ} {peer later : σ}
    {result : Except Failure Nat} (inOrder : before.item.InOrder size ceiling)
    (asked : Asked source peer before (result, after, later)) :
    after.item.InOrder size ceiling := by
  cases asked with
  | readMode other => exact inOrder
  | refused writeMode beyond => exact inOrder
  | failed ensured reserves answers => exact inOrder.ensured ensured
  | @delivered ready bytes later ensured reserves answers =>
      have writeMode := (ensureRemaining_ok ensured).2.1
      exact (inOrder.ensured ensured).store ⟨writeMode, size_extract_le bytes _⟩

/-- Every action keeps a buffer in order, whether it succeeds or not. -/
theorem perform (inOrder : before.item.InOrder size ceiling) (action : Action) :
    (action.operation.leaves before).item.InOrder size ceiling := by
  cases action with
  | write bytes =>
      unfold Attempt.leaves Action.operation
      dsimp only
      rw [write_eq]
      cases ensured : ensureRemaining bytes.size before with
      | ok value ready =>
          exact (inOrder.ensured ensured).store (fits_of_ensured ensured (Nat.le_refl _))
      | error failure kept =>
          rw [ensureRemaining_error ensured]
          exact inOrder
  | ensure amount =>
      unfold Attempt.leaves Action.operation
      dsimp only
      cases ensured : ensureRemaining amount before with
      | ok value ready => exact inOrder.ensured ensured
      | error failure kept =>
          rw [ensureRemaining_error ensured]
          exact inOrder
  | flip =>
      have inside := Nat.le_trans inOrder.ready.ordered inOrder.ready.inside
      exact inOrder.moved (Nat.zero_le _) inside
  | clear => exact inOrder.cleared before.memory
  | fill byte => exact inOrder.filled byte
  | setPosition position =>
      unfold Attempt.leaves Action.operation Buffer.setPosition
      dsimp only
      by_cases within : position ≤ before.item.limit
      · rw [if_pos within]
        exact inOrder.moved within inOrder.ready.inside
      · rw [if_neg within]
        exact inOrder
  | setLimit limit =>
      unfold Attempt.leaves Action.operation Buffer.setLimit
      dsimp only
      by_cases within : limit ≤ before.item.capacity
      · rw [if_pos within]
        exact inOrder.moved (Nat.min_le_right _ _) within
      · rw [if_neg within]
        exact inOrder
  | send sink =>
      have sent := inOrder.sent (fun (_ : Unit) offered => (sink offered, ())) ()
      unfold Attempt.leaves Action.operation sendOnce
      dsimp only
      generalize before.item.send (fun (_ : Unit) offered => (sink offered, ())) () = answer
        at sent ⊢
      obtain ⟨result, buffer, later⟩ := answer
      cases result <;> exact sent
  | receive source =>
      have asked := receive_asked inOrder.ready inOrder.limited (steady source) ()
      unfold Attempt.leaves Action.operation receiveOnce
      dsimp only
      generalize Buffer.receive (steady source) () before = answer at asked ⊢
      obtain ⟨result, kept, later⟩ := answer
      cases result <;> exact inOrder.received asked

theorem performAll (inOrder : before.item.InOrder size ceiling) (actions : List Action) :
    (Buffer.performAll actions before).item.InOrder size ceiling := by
  induction actions generalizing before with
  | nil => exact inOrder
  | cons action actions ih => exact ih (inOrder.perform action)

end InOrder

/-- Whatever was done with a buffer since it was made, it is in order. -/
theorem inOrder_performAll (size ceiling : Nat) (memory : MemoryStats) (actions : List Action) :
    (performAll actions (allocate size ceiling memory)).item.InOrder size ceiling :=
  @InOrder.performAll _ _ (allocate size ceiling memory) (inOrder_new size ceiling) actions

/-! ### Failing calls -/

/-- A call that fails leaves the buffer and the counters as they were, unless it is a source that
fails: the room that was made for it stays. -/
theorem Action.refused (ready : before.item.Ready) (limited : before.item.Limited)
    {action : Action} {failure : Failure}
    (refused : action.operation before = .error failure after) :
    after = before ∨
      ∃ source error, action = .receive source ∧ failure = .io error ∧
        source after.item.remaining = .fails error ∧
        Reserves before.item.headroom before after := by
  cases action with
  | write bytes => exact .inl (write_error refused)
  | ensure amount => exact .inl (ensureRemaining_error refused)
  | flip => cases refused
  | clear => cases refused
  | fill byte => cases refused
  | setPosition position =>
      unfold Action.operation Buffer.setPosition at refused
      dsimp only at refused
      split at refused <;> cases refused
      exact .inl rfl
  | setLimit limit =>
      unfold Action.operation Buffer.setLimit at refused
      dsimp only at refused
      split at refused <;> cases refused
      exact .inl rfl
  | send sink =>
      unfold Action.operation sendOnce at refused
      dsimp only at refused
      split at refused
      · cases refused
      · rename_i error kept later answer
        cases refused
        rw [(send_error answer).1]
        exact .inl rfl
  | receive source =>
      have asked := receive_asked ready limited (steady source) ()
      unfold Action.operation receiveOnce at refused
      dsimp only at refused
      generalize Buffer.receive (steady source) () before = answer at asked refused
      cases asked with
      | readMode other =>
          cases refused
          exact .inl rfl
      | refused writeMode beyond =>
          cases refused
          exact .inl rfl
      | @failed made error later ensured reserves answers =>
          cases refused
          exact .inr ⟨source, error, rfl, rfl, congrArg Prod.fst answers, reserves⟩
      | delivered ensured reserves answers => cases refused

/-- After any actions, calls that failed among them, the cursors are in their order and the region
lies between the size that the buffer was made with and its ceiling. So what is left, what is filled
and what is readable are counted and cut out within the region. The next call that fails leaves the
buffer and the counters as they are, unless it is a source that fails after room was made for it:
then the region may have grown at its end, and nothing else is different. -/
theorem actions_in_order (size ceiling : Nat) (memory : MemoryStats) (actions : List Action) :
    let state := performAll actions (allocate size ceiling memory)
    let buffer := state.item
    (buffer.position ≤ buffer.limit ∧ buffer.limit ≤ buffer.capacity) ∧
      (buffer.initialCapacity = size ∧ buffer.ceiling = max ceiling size) ∧
      (buffer.initialCapacity ≤ buffer.capacity ∧ buffer.capacity ≤ buffer.ceiling) ∧
      buffer.position + buffer.remaining = buffer.limit ∧
      buffer.filled.size = buffer.position ∧ buffer.readable.size = buffer.remaining ∧
      ∀ (action : Action) (failure : Failure) (after : Metered Buffer),
        action.operation state = .error failure after →
          after = state ∨
            ∃ source error, action = .receive source ∧ failure = .io error ∧
              source after.item.remaining = .fails error ∧
              Reserves buffer.headroom state after := by
  intro state buffer
  obtain ⟨ready, ⟨initial, limit, least⟩, limited⟩ :=
    inOrder_performAll size ceiling memory actions
  have inside := Nat.le_trans ready.ordered ready.inside
  refine ⟨⟨ready.ordered, ready.inside⟩, ⟨initial, limit⟩, ⟨?_, limited⟩, ?_, ?_, ?_, ?_⟩
  · rw [initial]
    exact least
  · exact Nat.add_sub_cancel' ready.ordered
  · exact size_filled inside
  · exact size_readable ready
  · intro action failure after refused
    exact Action.refused ready limited refused

def clumsy : List Action :=
  [.write ⟨#[1, 2, 3, 4]⟩, .flip, .flip, .setPosition 9, .setLimit 4, .setPosition 4]

/-- A source that fails leaves the buffer larger, with what is filled as it was. -/
theorem actions_in_order_clumsy :
    let state := performAll clumsy (allocate 4 8 {})
    ∃ after, (Action.receive fun _ => .fails .wouldBlock).operation state =
        .error (.io .wouldBlock) after ∧
      (state.item.position, state.item.limit, state.item.capacity) = (4, 4, 4) ∧
      (after.item.position, after.item.limit, after.item.capacity) = (4, 8, 8) ∧
      (after = state ∨
        ∃ source error, (Action.receive fun _ => .fails .wouldBlock) = .receive source ∧
          Failure.io .wouldBlock = .io error ∧ source after.item.remaining = .fails error ∧
          Reserves state.item.headroom state after) := by
  obtain ⟨_, _, _, _, _, _, fails⟩ := actions_in_order 4 8 {} clumsy
  refine ⟨_, rfl, by decide +kernel, by decide +kernel, ?_⟩
  exact fails _ _ _ rfl

end Fanout.Buffer
