import Fanout.Buffer.Basic

/-!
Moving bytes between a buffer and a peer. One call asks the peer once. A sink takes no more than
it is offered and a source delivers no more than the room it is given; what an answer says beyond
that is cut off. A source that delivers nothing has come to its end.
-/

set_option autoImplicit false

namespace Fanout

inductive SendAnswer where
  | accepts (count : Nat)
  | fails (error : IoError)
  deriving DecidableEq, Repr

inductive ReceiveAnswer where
  | delivers (bytes : ByteArray)
  | fails (error : IoError)

namespace Buffer

/-- Offers the readable bytes once and steps over those that were taken. -/
def send {σ : Type} (buffer : Buffer) (sink : σ → ByteArray → SendAnswer × σ) (peer : σ) :
    Except IoError Nat × Buffer × σ :=
  match sink peer buffer.readable with
  | (.accepts count, peer) =>
      let taken := min count buffer.remaining
      (.ok taken, { buffer with position := buffer.position + taken }, peer)
  | (.fails error, peer) => (.error error, buffer, peer)

theorem send_ok {σ : Type} {buffer after : Buffer} {sink : σ → ByteArray → SendAnswer × σ}
    {peer later : σ} {taken : Nat} (sent : buffer.send sink peer = (.ok taken, after, later)) :
    taken ≤ buffer.remaining ∧ after.remaining = buffer.remaining - taken := by
  unfold send at sent
  split at sent
  · simp only [Prod.mk.injEq, Except.ok.injEq] at sent
    obtain ⟨count, moved, _⟩ := sent
    subst count moved
    simp only [remaining]
    omega
  · simp at sent

theorem send_error {σ : Type} {buffer after : Buffer} {sink : σ → ByteArray → SendAnswer × σ}
    {peer later : σ} {error : IoError}
    (sent : buffer.send sink peer = (.error error, after, later)) :
    after = buffer ∧ sink peer buffer.readable = (.fails error, later) := by
  unfold send at sent
  split at sent
  · simp at sent
  · rename_i other next answer
    simp only [Prod.mk.injEq, Except.error.injEq] at sent
    obtain ⟨same, kept, peerSame⟩ := sent
    subst same kept peerSame
    exact ⟨rfl, answer⟩

/-- The room that is kept free for a source: an eighth of the capacity, and at least one byte. -/
def headroom (buffer : Buffer) : Nat := max (buffer.capacity / 8) 1

/-- Asks a source once for bytes and stores them at the position. -/
def receive {σ : Type} (source : σ → Nat → ReceiveAnswer × σ) (peer : σ)
    (state : Metered Buffer) : Except Failure Nat × Metered Buffer × σ :=
  match ensureRemaining state.item.headroom state with
  | .error (.outOfMemory shortage) state => (.error (.io (.outOfMemory shortage)), state, peer)
  | .error failure state => (.error failure, state, peer)
  | .ok () state =>
      match source peer state.item.remaining with
      | (.fails error, peer) => (.error (.io error), state, peer)
      | (.delivers bytes, peer) =>
          let delivered := bytes.extract 0 state.item.remaining
          (.ok delivered.size, { state with item := state.item.store delivered }, peer)

theorem receive_ok {σ : Type} {source : σ → Nat → ReceiveAnswer × σ} {peer later : σ}
    {state after : Metered Buffer} {count : Nat}
    (received : receive source peer state = (.ok (count + 1), after, later)) :
    after.item.roomLeft < state.item.roomLeft := by
  unfold receive at received
  split at received
  · simp at received
  · simp at received
  · rename_i ready ensured
    have kept := ensureRemaining_ok ensured
    split at received
    · simp at received
    · rename_i bytes next answer
      simp only [Prod.mk.injEq, Except.ok.injEq] at received
      obtain ⟨size, stored, _⟩ := received
      have bound : (bytes.extract 0 ready.item.remaining).size ≤ ready.item.remaining := by
        rw [ByteArray.size_extract]
        exact Nat.le_trans (Nat.sub_le _ _) (Nat.min_le_left _ _)
      rw [size] at bound
      have room : ready.item.position + (count + 1) ≤ ready.item.capacity := by
        rw [← kept.2.1]
        unfold remaining at bound
        omega
      have sameCapacity := capacity_store ready.item
        (bytes.extract 0 ready.item.remaining) (by rw [size]; exact room)
      rw [← kept.2.2, ← stored]
      simp only [roomLeft]
      rw [sameCapacity]
      simp only [store, size]
      omega

theorem receive_io {σ : Type} {source : σ → Nat → ReceiveAnswer × σ} {peer later : σ}
    {state after : Metered Buffer} {error : IoError}
    (received : receive source peer state = (.error (.io error), after, later)) :
    after.item.roomLeft = state.item.roomLeft ∧
      ((∃ room, source peer room = (.fails error, later)) ∨
        ∃ shortage, error = .outOfMemory shortage) := by
  unfold receive at received
  split at received
  · rename_i shortage kept refused
    simp only [Prod.mk.injEq, Except.error.injEq, Failure.io.injEq] at received
    obtain ⟨same, stateSame, _⟩ := received
    refine ⟨?_, .inr ⟨shortage, same.symm⟩⟩
    rw [← stateSame, ensureRemaining_error refused]
  · rename_i failure kept other refused
    simp only [Prod.mk.injEq, Except.error.injEq] at received
    rw [← received.2.1, ensureRemaining_error refused]
    have impossible := ensureRemaining_failure refused
    rcases impossible with ⟨shortage, same⟩ | ⟨rule, same⟩
    · exact absurd same (other shortage)
    · rw [same] at received
      cases received.1
  · rename_i ready ensured
    split at received
    · rename_i next cause answer
      simp only [Prod.mk.injEq, Except.error.injEq, Failure.io.injEq] at received
      obtain ⟨same, stateSame, peerSame⟩ := received
      subst same stateSame peerSame
      exact ⟨(ensureRemaining_ok ensured).2.2, .inl ⟨_, answer⟩⟩
    · simp at received

end Buffer

end Fanout
