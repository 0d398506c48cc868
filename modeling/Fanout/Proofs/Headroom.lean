import Fanout.Proofs.Appending

/-!
The headroom of receiving. A source is asked as long as the headroom fits below the ceiling, and it
is offered that room at least. The last bytes below the ceiling are left free for it: a stream that
would end within them is taken in or refused as it happens to be cut, and writing still reaches
them.
-/

set_option autoImplicit false

namespace Fanout.Buffer

variable {size ceiling : Nat} {buffer : Buffer} {bytes : ByteArray}
  {before after first last : Metered Buffer}

/-! ### One call -/

structure Receptive (buffer : Buffer) : Prop where
  ready : buffer.Ready
  limited : buffer.Limited
  writeMode : buffer.limit = buffer.capacity

theorem InOrder.receptive (inOrder : buffer.InOrder size ceiling)
    (writeMode : buffer.limit = buffer.capacity) : buffer.Receptive :=
  ⟨inOrder.ready, inOrder.limited, writeMode⟩

theorem Receptive.holds (receptive : buffer.Receptive) : buffer.Holds buffer.filled :=
  receptive.ready.holds receptive.writeMode

theorem extract_all {room : Nat} (within : bytes.size ≤ room) : bytes.extract 0 room = bytes := by
  rw [← Nat.max_eq_left within]
  exact ByteArray.extract_zero_max_size

structure Asks {σ : Type} (source : σ → Nat → ReceiveAnswer × σ) (peer : σ)
    (before ready : Metered Buffer) : Prop where
  reserves : Reserves before.item.headroom before ready
  offered : before.item.headroom ≤ ready.item.remaining
  fails : ∀ error later, source peer ready.item.remaining = (.fails error, later) →
    receive source peer before = (.error (.io error), ready, later)
  delivers : ∀ bytes later, source peer ready.item.remaining = (.delivers bytes, later) →
    ∃ after,
      receive source peer before =
          (.ok (bytes.extract 0 ready.item.remaining).size, after, later) ∧
        Appended (bytes.extract 0 ready.item.remaining) before after

theorem receive_asks (receptive : before.item.Receptive)
    (within : before.item.position + before.item.headroom ≤ before.item.ceiling) :
    ∃ ready, ∀ {σ : Type} (source : σ → Nat → ReceiveAnswer × σ) (peer : σ),
      Asks source peer before ready := by
  obtain ⟨ready, ensured, reserves⟩ := ensureRemaining_reserves receptive.holds within
  refine ⟨ready, fun source peer => ⟨reserves, ensureRemaining_room ensured, ?_, ?_⟩⟩
  · intro error later answers
    exact receive_of_fails ensured answers
  · intro bytes later answers
    exact ⟨_, receive_of_delivers ensured answers,
      reserves.stored receptive.holds ensured (size_extract_le bytes _)⟩

def shortage (buffer : Buffer) : OutOfMemory :=
  ⟨min (buffer.position + buffer.headroom) largestWord, buffer.ceiling⟩

theorem receive_refused {σ : Type} (receptive : before.item.Receptive)
    (beyond : before.item.ceiling < before.item.position + before.item.headroom)
    (source : σ → Nat → ReceiveAnswer × σ) (peer : σ) :
    receive source peer before =
      (.error (.io (.outOfMemory before.item.shortage)), before, peer) := by
  unfold receive
  rw [ensureRemaining_beyond receptive.holds receptive.limited beyond]
  rfl

/-- In write mode a call is refused, or its source is asked. -/
theorem receive_cases {σ : Type} (receptive : before.item.Receptive)
    (source : σ → Nat → ReceiveAnswer × σ) (peer : σ) :
    receive source peer before =
        (.error (.io (.outOfMemory before.item.shortage)), before, peer) ∨
      ∃ ready, Asks source peer before ready := by
  by_cases within : before.item.position + before.item.headroom ≤ before.item.ceiling
  · obtain ⟨ready, asks⟩ := receive_asks receptive within
    exact .inr ⟨ready, asks source peer⟩
  · exact .inl (receive_refused receptive (Nat.lt_of_not_le within) source peer)

/-- At the largest an eighth of the ceiling is left free. -/
theorem Limited.headroom_le (limited : buffer.Limited) :
    buffer.headroom ≤ max (buffer.ceiling / 8) 1 := by
  have eighth := Nat.div_le_div_right (c := 8) limited
  unfold Buffer.headroom
  omega

/-! ### A stream in pieces -/

def delivering (bytes : ByteArray) : Unit → Nat → ReceiveAnswer × Unit :=
  steady fun _ => .delivers bytes

/-- A stream that came in through one call after the other, in whatever pieces: each call took all
that was delivered to it, one byte or more. -/
inductive Fed (first : Metered Buffer) : ByteArray → Metered Buffer → Prop where
  | start : Fed first .empty first
  | received {bytes piece : ByteArray} {middle after : Metered Buffer}
      (fed : Fed first bytes middle) (some : 0 < piece.size)
      (received : receive (delivering piece) () middle = (.ok piece.size, after, ())) :
      Fed first (bytes ++ piece) after

/-- A piece that was taken as a whole is appended. -/
theorem receive_delivering (receptive : before.item.Receptive)
    (received : receive (delivering bytes) () before = (.ok bytes.size, after, ())) :
    Appended bytes before after := by
  rcases receive_cases receptive (delivering bytes) () with refused | ⟨ready, asks⟩
  · cases received.symm.trans refused
  · obtain ⟨stored, answer, appended⟩ := asks.delivers bytes () rfl
    obtain ⟨count, rest⟩ := Prod.mk.inj (received.symm.trans answer)
    obtain ⟨rfl, _⟩ := Prod.mk.inj rest
    have within : bytes.size ≤ ready.item.remaining :=
      Nat.le_trans (Nat.le_of_eq (Except.ok.inj count)) (size_extract_le bytes _)
    rw [extract_all within] at appended
    exact appended

/-- What came in stands behind what was there, and the buffer is in order and in write mode. -/
theorem Fed.appended (fed : Fed first bytes last) (inOrder : first.item.InOrder size ceiling)
    (writeMode : first.item.limit = first.item.capacity) :
    last.item.filled = first.item.filled ++ bytes ∧
      last.item.position = first.item.position + bytes.size ∧
      last.item.limit = last.item.capacity ∧ last.item.InOrder size ceiling := by
  induction fed with
  | start =>
      exact ⟨ByteArray.append_empty.symm, rfl, writeMode, inOrder⟩
  | @received bytes piece middle after fed some received ih =>
      obtain ⟨filled, position, writes, kept⟩ := ih
      obtain ⟨appended, same, _⟩ := receive_delivering (kept.receptive writes) received
      have moved : after.item.position = middle.item.position + piece.size :=
        congrArg Buffer.position same
      have ends : after.item.limit = after.item.capacity := congrArg Buffer.limit same
      have asked := receive_asked kept.ready kept.limited (delivering piece) ()
      rw [received] at asked
      refine ⟨?_, ?_, ends, kept.received asked⟩
      · rw [appended, filled, ByteArray.append_assoc]
      · rw [moved, position, ByteArray.size_append, Nat.add_assoc]

/-- However a stream was cut into pieces, what decides about the next call is whether the headroom
fits below the ceiling: if it does the source is asked, and if not the call is refused, although
bytes below the ceiling may be free that a write still reaches. So no call is refused that is needed
for a stream that ends an eighth of the ceiling below it; a ceiling of a few bytes, below which the
headroom is a single one, may be reached. -/
theorem receives_until_headroom (used : Used size ceiling first)
    (writeMode : first.item.limit = first.item.capacity) (fed : Fed first bytes last) :
    let buffer := last.item
    (buffer.filled = first.item.filled ++ bytes ∧ buffer.limit = buffer.capacity ∧
        buffer.position = first.item.position + bytes.size ∧
        buffer.position ≤ buffer.ceiling ∧ buffer.ceiling = max ceiling size) ∧
      (buffer.ceiling < buffer.position + buffer.headroom →
        ∀ {σ : Type} (source : σ → Nat → ReceiveAnswer × σ) (peer : σ),
          receive source peer last = (.error (.io (.outOfMemory buffer.shortage)), last, peer)) ∧
      (buffer.position + buffer.headroom ≤ buffer.ceiling →
        ∃ ready, ∀ {σ : Type} (source : σ → Nat → ReceiveAnswer × σ) (peer : σ),
          Asks source peer last ready) ∧
      (∀ total, bytes.size < total →
        first.item.position + total + max (buffer.ceiling / 8) 1 ≤ buffer.ceiling + 1 →
        buffer.position + buffer.headroom ≤ buffer.ceiling) ∧
      ∀ piece : ByteArray, buffer.position + piece.size ≤ buffer.ceiling →
        ∃ after, write piece last = .ok () after ∧ Appended piece last after := by
  intro buffer
  obtain ⟨filled, position, ends, inOrder⟩ := fed.appended used.inOrder writeMode
  have receptive := inOrder.receptive ends
  obtain ⟨ready, sized, limited⟩ := inOrder
  have inside := Nat.le_trans ready.ordered ready.inside
  refine ⟨⟨filled, ends, position, Nat.le_trans inside limited, sized.ceiling⟩, ?_, ?_, ?_, ?_⟩
  · intro beyond σ source peer
    exact receive_refused receptive beyond source peer
  · intro within
    exact receive_asks receptive within
  · intro total needed short
    change first.item.position + total + max (last.item.ceiling / 8) 1 ≤
      last.item.ceiling + 1 at short
    have free := limited.headroom_le
    change last.item.position + last.item.headroom ≤ last.item.ceiling
    omega
  · intro piece within
    have refines := write_refines ready limited ends piece
    obtain ⟨after, wrote⟩ := refines.succeeds.mpr within
    exact ⟨after, wrote, refines.appends after wrote⟩

/-- A stream that fits into a new buffer may come in as one piece. -/
theorem fed_new (ceiling : Nat) (memory : MemoryStats) (some : 0 < bytes.size)
    (within : bytes.size ≤ size) :
    Fed (allocate size ceiling memory) bytes
      ⟨(new size ceiling).store bytes, memory.recordAlloc size⟩ := by
  have capacity : (new size ceiling).capacity = size := size_solid size poisonByte
  have room : (new size ceiling).headroom ≤ (new size ceiling).remaining := by
    unfold headroom
    rw [capacity]
    change max (size / 8) 1 ≤ size - 0
    omega
  have received : receive (delivering bytes) () (allocate size ceiling memory) =
      (.ok bytes.size, ⟨(new size ceiling).store bytes, memory.recordAlloc size⟩, ()) := by
    have whole : bytes.extract 0 (new size ceiling).remaining = bytes := extract_all within
    unfold receive allocate
    rw [ensureRemaining_of_room (holds_new size ceiling) room]
    change (Except.ok (bytes.extract 0 (new size ceiling).remaining).size, _, ()) = _
    rw [whole]
  have fed := Fed.received .start some received
  rw [ByteArray.empty_append] at fed
  exact fed

def nearlyFull : Metered Buffer :=
  ⟨(new 16 16).store (solid 15 97), (allocate 16 16 {}).memory⟩

/-- The last byte is written, but not received. -/
theorem receives_until_headroom_nearlyFull :
    receive (delivering ⟨#[98]⟩) () nearlyFull =
        (.error (.io (.outOfMemory ⟨17, 16⟩)), nearlyFull, ()) ∧
      ∃ after, write ⟨#[98]⟩ nearlyFull = .ok () after ∧ Appended ⟨#[98]⟩ nearlyFull after := by
  have fed : Fed (allocate 16 16 {}) (solid 15 97) nearlyFull :=
    fed_new 16 {} (by decide) (by decide)
  obtain ⟨_, refused, _, _, writes⟩ := receives_until_headroom (.made {} : Used 16 16 _) rfl fed
  exact ⟨refused (by decide) _ (), writes ⟨#[98]⟩ (by decide)⟩

/-- Sixteen bytes below a ceiling of sixteen come in as one piece, and not as fifteen and one: the
second call is refused with a byte free. -/
theorem receive_refuses_free_byte :
    Fed (allocate 16 16 {}) (solid 15 97) nearlyFull ∧
      nearlyFull.item.position + 1 = nearlyFull.item.ceiling ∧
      receive (delivering ⟨#[98]⟩) () nearlyFull =
        (.error (.io (.outOfMemory ⟨17, 16⟩)), nearlyFull, ()) ∧
      ∃ whole, Fed (allocate 16 16 {}) (solid 15 97 ++ ⟨#[98]⟩) whole := by
  refine ⟨fed_new 16 {} ?_ ?_, ?_, rfl, _, fed_new 16 {} ?_ ?_⟩
  all_goals decide

end Fanout.Buffer
