import Mathlib
import Fanout.Proofs.Answering
import Fanout.Proofs.Session

/-!
The balance of an engine. Its counters always say how many bytes its batches hold, in the pool and
outside of it, and how many they held at most. Each thing that is done makes the batches hold more
or makes them hold less, so what lies between two moments that are looked at was never the most.
-/

set_option autoImplicit false

namespace Fanout

namespace MemoryStats

variable {before middle after stats : MemoryStats} {total highest bytes more less : Nat}

structure Exact (stats : MemoryStats) (total highest : Nat) : Prop where
  allocated : stats.allocated.toNat = total
  peak : stats.peak.toNat = highest
  below : total ≤ highest

theorem toNat_max (one other : UInt64) : (max one other).toNat = max one.toNat other.toNat := by
  by_cases less : one ≤ other
  · rw [Nat.max_eq_right (UInt64.le_iff_toNat_le.mp less)]
    exact congrArg UInt64.toNat (if_pos less)
  · rw [Nat.max_eq_left (Nat.le_of_not_le fun le => less (UInt64.le_iff_toNat_le.mpr le))]
    exact congrArg UInt64.toNat (if_neg less)

theorem Exact.recordAlloc (exact : stats.Exact total highest) (small : total + bytes < 2 ^ 64) :
    (stats.recordAlloc bytes).Exact (total + bytes) (max highest (total + bytes)) := by
  have counted : (stats.allocated + UInt64.ofNat bytes).toNat = total + bytes := by
    rw [UInt64.toNat_add, exact.allocated, UInt64.toNat_ofNat', Nat.add_mod_mod,
      Nat.mod_eq_of_lt small]
  refine ⟨counted, ?_, Nat.le_max_right _ _⟩
  unfold MemoryStats.recordAlloc
  rw [toNat_max, counted, exact.peak]

theorem Exact.recordFree (exact : stats.Exact (total + bytes) highest) :
    (stats.recordFree bytes).Exact total highest := by
  have small : total + bytes < 2 ^ 64 := by
    rw [← exact.allocated]
    exact stats.allocated.toNat_lt
  have counted : (stats.allocated - UInt64.ofNat bytes).toNat = total := by
    have size : (UInt64.ofNat bytes).toNat = bytes := by
      rw [UInt64.toNat_ofNat', Nat.mod_eq_of_lt (by omega)]
    rw [UInt64.toNat_sub, exact.allocated, size]
    omega
  exact ⟨counted, exact.peak, Nat.le_trans (Nat.le_add_right _ _) exact.below⟩

/-- The counters go up by so many bytes, unless they wrap around. -/
def Takes (before : MemoryStats) (bytes : Nat) (after : MemoryStats) : Prop :=
  ∀ total highest : Nat, before.Exact total highest → total + bytes < 2 ^ 64 →
    after.Exact (total + bytes) (max highest (total + bytes))

def Gives (before : MemoryStats) (bytes : Nat) (after : MemoryStats) : Prop :=
  ∀ total highest : Nat, before.Exact (total + bytes) highest → after.Exact total highest

theorem takes_none (stats : MemoryStats) : stats.Takes 0 stats := by
  intro total highest exact _
  rw [Nat.add_zero, Nat.max_eq_left exact.below]
  exact exact

theorem Takes.trans (first : before.Takes bytes middle) (second : middle.Takes more after) :
    before.Takes (bytes + more) after := by
  intro total highest exact small
  have later := second _ _ (first _ _ exact (by omega)) (by omega)
  rw [Nat.max_assoc, Nat.max_eq_right (Nat.le_add_right _ more), Nat.add_assoc] at later
  exact later

theorem Gives.trans (first : before.Gives bytes middle) (second : middle.Gives less after) :
    before.Gives (bytes + less) after := by
  intro total highest exact
  apply second
  apply first
  rwa [Nat.add_right_comm, Nat.add_assoc]

theorem takes_recordAlloc (stats : MemoryStats) (bytes : Nat) :
    stats.Takes bytes (stats.recordAlloc bytes) := fun _ _ => Exact.recordAlloc

theorem gives_recordFree (stats : MemoryStats) (bytes : Nat) :
    stats.Gives bytes (stats.recordFree bytes) := fun _ _ => Exact.recordFree

theorem takes_recordGrow (stats : MemoryStats) (held more : Nat) :
    stats.Takes more (stats.recordGrow held (held + more)) := by
  unfold recordGrow
  rw [if_pos (Nat.le_add_right held more), Nat.add_sub_cancel_left]
  intro total highest exact small
  exact Exact.recordAlloc ⟨exact.allocated, exact.peak, exact.below⟩ small

end MemoryStats

namespace Metered

variable {α : Type} {size : α → Nat} {before middle after : Metered α}

def Grows (size : α → Nat) (before after : Metered α) : Prop :=
  ∃ more, size after.item = size before.item + more ∧ before.memory.Takes more after.memory

def Shrinks (size : α → Nat) (before after : Metered α) : Prop :=
  ∃ less, size before.item = size after.item + less ∧ before.memory.Gives less after.memory

theorem Grows.refl (state : Metered α) : Grows size state state :=
  ⟨0, rfl, state.memory.takes_none⟩

theorem Grows.of_same (same : size after.item = size before.item)
    (kept : after.memory = before.memory) : Grows size before after := by
  refine ⟨0, same, ?_⟩
  rw [kept]
  exact before.memory.takes_none

theorem Grows.trans (first : Grows size before middle) (second : Grows size middle after) :
    Grows size before after := by
  obtain ⟨some, grown, takes⟩ := first
  obtain ⟨more, grownMore, takesMore⟩ := second
  exact ⟨some + more, by rw [grownMore, grown, Nat.add_assoc], takes.trans takesMore⟩

theorem Grows.le (grows : Grows size before after) : size before.item ≤ size after.item := by
  obtain ⟨more, grown, _⟩ := grows
  rw [grown]
  exact Nat.le_add_right _ _

theorem Grows.exact {highest : Nat} (grows : Grows size before after)
    (exact : before.memory.Exact (size before.item) highest)
    (small : size after.item < 2 ^ 64) :
    after.memory.Exact (size after.item) (max highest (size after.item)) := by
  obtain ⟨more, grown, takes⟩ := grows
  rw [grown] at small ⊢
  exact takes _ _ exact small

theorem Shrinks.exact {highest : Nat} (shrinks : Shrinks size before after)
    (exact : before.memory.Exact (size before.item) highest) :
    after.memory.Exact (size after.item) (max highest (size after.item)) := by
  obtain ⟨less, shrunk, gives⟩ := shrinks
  rw [shrunk] at exact
  have kept := gives _ _ exact
  rwa [Nat.max_eq_left kept.below]

end Metered

open Metered (Grows Shrinks)

/-! ### Buffers and batches -/

namespace Buffer

theorem ensureRemaining_grows {amount : Nat} {before after : Metered Buffer}
    (ensured : ensureRemaining amount before = .ok () after) : Grows capacity before after := by
  unfold ensureRemaining at ensured
  dsimp only at ensured
  split at ensured
  · cases ensured
  · rename_i writeMode
    split at ensured
    · cases ensured
      exact .refl _
    · rename_i tight
      split at ensured
      · cases ensured
      · rename_i below
        cases ensured
        have doubled := le_doubledUntil (before.item.position + amount) (max before.item.limit 1)
          (by omega)
        have larger : before.item.capacity ≤
            before.item.grownCapacity (before.item.position + amount) := by
          unfold grownCapacity
          unfold remaining at tight
          omega
        obtain ⟨more, grown⟩ := Nat.exists_eq_add_of_le larger
        refine ⟨more, ?_, ?_⟩
        · unfold capacity extend
          dsimp only
          rw [ByteArray.size_append, size_solid, grown, Nat.add_sub_cancel_left]
        · dsimp only
          rw [grown]
          exact before.memory.takes_recordGrow _ more

theorem clear_shrinks (state : Metered Buffer) : Shrinks capacity state (clear state) := by
  unfold clear
  dsimp only
  split
  · rename_i grown
    refine ⟨state.item.capacity - state.item.initialCapacity, ?_, state.memory.gives_recordFree _⟩
    have cleared : capacity { state.item with
        data := solid state.item.initialCapacity 0
        position := 0
        limit := state.item.initialCapacity } = state.item.initialCapacity := size_solid _ _
    rw [cleared]
    omega
  · exact ⟨0, rfl, fun _ _ => id⟩

theorem capacity_fill (buffer : Buffer) (byte : UInt8) :
    (buffer.fill byte).capacity = buffer.capacity := size_solid _ _

end Buffer

namespace Batch

variable {admits : Buffer → Reply → Prop} {bytes : ByteArray} {before after : Metered Batch}

/-- The memory that the two buffers of a batch take. -/
def footprint (batch : Batch) : Nat := batch.writeBuffer.capacity + batch.readBuffer.capacity

theorem Change.grows (change : Change admits before bytes after) :
    Grows footprint before after := by
  cases change with
  | sendRoom ensured =>
      obtain ⟨more, grown, takes⟩ := Buffer.ensureRemaining_grows ensured
      refine ⟨more, ?_, takes⟩
      unfold footprint withSending
      dsimp only [sending] at grown ⊢
      rw [grown, Nat.add_right_comm]
  | written bytes fits => exact .of_same (congrArg (· + _) fits.capacity) rfl
  | flipped =>
      refine .of_same ?_ rfl
      unfold startSending
      dsimp only
      split <;> rfl
  | receiveRoom ensured =>
      obtain ⟨more, grown, takes⟩ := Buffer.ensureRemaining_grows ensured
      refine ⟨more, ?_, takes⟩
      unfold footprint withReadBuffer
      dsimp only [receiving] at grown ⊢
      rw [grown, Nat.add_assoc]
  | received bytes fits => exact .of_same (congrArg (_ + ·) fits.capacity) rfl
  | _ => exact .of_same rfl rfl

theorem Changes.grows (changes : Changes admits before bytes after) :
    Grows footprint before after :=
  changes.kept (.refl before) fun grown change => grown.trans change.grows

theorem reset_shrinks (state : Metered Batch) : Shrinks footprint state (reset state) := by
  obtain ⟨less, shrunk, gives⟩ :=
    Buffer.clear_shrinks ⟨state.item.writeBuffer, state.memory⟩
  obtain ⟨lessMore, shrunkMore, givesMore⟩ := Buffer.clear_shrinks
    ⟨state.item.readBuffer, (Buffer.clear ⟨state.item.writeBuffer, state.memory⟩).memory⟩
  refine ⟨less + lessMore, ?_, gives.trans givesMore⟩
  unfold footprint reset
  dsimp only at shrunk shrunkMore ⊢
  rw [Buffer.capacity_fill, Buffer.capacity_fill, shrunk, shrunkMore]
  omega

theorem release_gives (batch : Batch) (memory : MemoryStats) :
    memory.Gives batch.footprint (release ⟨batch, memory⟩) :=
  (memory.gives_recordFree _).trans (MemoryStats.gives_recordFree _ _)

theorem allocate_takes (config : Config) (memory : MemoryStats) :
    memory.Takes (allocate config memory).item.footprint (allocate config memory).memory := by
  have taken := (memory.takes_recordAlloc config.writeBufferSize).trans
    (MemoryStats.takes_recordAlloc _ config.readBufferSize)
  have size : (allocate config memory).item.footprint =
      config.writeBufferSize + config.readBufferSize :=
    congrArg₂ (· + ·) (Buffer.size_solid _ _) (Buffer.size_solid _ _)
  rw [size]
  exact taken

def footprints (batches : List Batch) : Nat := (batches.map footprint).sum

theorem footprints_append (batches others : List Batch) :
    footprints (batches ++ others) = footprints batches + footprints others := by
  unfold footprints
  rw [List.map_append, List.sum_append]

theorem footprints_perm {batches others : List Batch} (perm : batches.Perm others) :
    footprints batches = footprints others := (perm.map footprint).sum_nat

variable {batches : List Batch} {batch : Batch} {memory : MemoryStats} {index : Nat}
  {changed : Metered Batch}

theorem footprints_present (present : batches[index]? = some batch) :
    footprints batches = batch.footprint + footprints (batches.eraseIdx index) :=
  footprints_perm (Session.perm_of_present present)

theorem footprints_set (present : batches[index]? = some batch) (changed : Batch) :
    footprints (batches.set index changed) =
      changed.footprint + footprints (batches.eraseIdx index) :=
  footprints_perm (Session.perm_set present changed)

theorem grows_set (present : batches[index]? = some batch)
    (grows : Grows footprint ⟨batch, memory⟩ changed) :
    Grows footprints ⟨batches, memory⟩ ⟨batches.set index changed.item, changed.memory⟩ := by
  obtain ⟨more, grown, takes⟩ := grows
  refine ⟨more, ?_, takes⟩
  dsimp only at grown ⊢
  rw [footprints_set present, footprints_present present, grown, Nat.add_right_comm]

theorem shrinks_set (present : batches[index]? = some batch)
    (shrinks : Shrinks footprint ⟨batch, memory⟩ changed) :
    Shrinks footprints ⟨batches, memory⟩ ⟨batches.set index changed.item, changed.memory⟩ := by
  obtain ⟨less, shrunk, gives⟩ := shrinks
  refine ⟨less, ?_, gives⟩
  dsimp only at shrunk ⊢
  rw [footprints_set present, footprints_present present, shrunk, Nat.add_right_comm]

theorem Evolve.grows {before after : Metered (List Batch)} (evolve : Evolve before after) :
    Grows footprints before after := by
  induction evolve with
  | refl => exact .refl _
  | step evolve present changes ih => exact ih.trans (grows_set present changes.grows)

/-- What holds of some of the batches holds of all, if the others are left alone. -/
theorem shrinks_beside (others : List Batch) {before after : Metered (List Batch)}
    (shrinks : Shrinks footprints before after) :
    Shrinks footprints ⟨others ++ before.item, before.memory⟩
      ⟨others ++ after.item, after.memory⟩ := by
  obtain ⟨less, shrunk, gives⟩ := shrinks
  refine ⟨less, ?_, gives⟩
  rw [footprints_append, footprints_append, shrunk, Nat.add_assoc]

end Batch

/-! ### Sessions -/

namespace Session

open Batch (footprint footprints)

variable {Net Sock : Type} {transport : Transport Net Sock} {config : Config}
  {session after : Session}

def batches (session : Session) : Metered (List Batch) :=
  ⟨session.engine.pool ++ session.held, session.engine.memory⟩

def total (session : Session) : Nat := footprints session.batches.item

theorem total_eq (session : Session) :
    session.total = footprints session.engine.pool + footprints session.held :=
  Batch.footprints_append _ _

theorem made_grows (session : Session) :
    Grows footprints session.batches (session.receive session.engine.newBatch).batches := by
  refine ⟨_, ?_, Batch.allocate_takes session.engine.config session.engine.memory⟩
  have middle : footprints (session.engine.pool ++
      (Batch.allocate session.engine.config session.engine.memory).item :: session.held) = _ :=
    Batch.footprints_perm List.perm_middle
  exact middle.trans (Nat.add_comm _ _)

theorem taken_grows {batch : Batch} {pool : List Batch}
    (stocked : session.engine.pool = batch :: pool) :
    Grows footprints session.batches
      (batches ⟨{ session.engine with pool := pool }, batch :: session.held⟩) := by
  refine .of_same ?_ rfl
  unfold batches
  dsimp only
  rw [stocked]
  exact Batch.footprints_perm List.perm_middle

/-- What evolves in a round takes more memory, all together. -/
theorem worked_grows {shared kept : List Batch} {after : Metered (List Batch)} {engine : Engine}
    (shares : session.held.Perm (shared ++ kept))
    (evolve : Batch.Evolve ⟨shared, session.engine.memory⟩ after)
    (alike : Alike { session.engine with memory := after.memory } engine) :
    Grows footprints session.batches (batches ⟨engine, after.item ++ kept⟩) := by
  obtain ⟨more, grown, takes⟩ := evolve.grows
  have pool : engine.pool = session.engine.pool := alike.pool
  refine ⟨more, ?_, ?_⟩
  · unfold batches
    dsimp only at grown ⊢
    rw [pool, Batch.footprints_append, Batch.footprints_append, Batch.footprints_append,
      Batch.footprints_perm shares, Batch.footprints_append, grown]
    omega
  · unfold batches
    dsimp only
    rw [alike.memory]
    exact takes

theorem dropped_shrinks {index : Nat} {batch : Batch}
    (present : session.held[index]? = some batch) :
    Shrinks footprints session.batches
      (batches ⟨session.engine.discard batch, session.held.eraseIdx index⟩) := by
  refine ⟨batch.footprint, ?_, Batch.release_gives batch session.engine.memory⟩
  unfold batches Engine.discard
  dsimp only
  rw [Batch.footprints_append, Batch.footprints_append, Batch.footprints_present present,
    Nat.add_left_comm, Nat.add_comm]

theorem recycled_shrinks {index : Nat} {batch : Batch}
    (present : session.held[index]? = some batch) :
    Shrinks footprints session.batches
      (batches ⟨session.engine.recycle batch, session.held.eraseIdx index⟩) := by
  obtain ⟨less, shrunk, gives⟩ := Batch.reset_shrinks ⟨batch, session.engine.memory⟩
  have there := Batch.footprints_present present
  unfold Engine.recycle batches
  dsimp only at shrunk gives ⊢
  split
  · refine ⟨less, ?_, gives⟩
    have inside : ∀ others, footprints ((Batch.reset ⟨batch, session.engine.memory⟩).item ::
        others) = footprint _ + footprints others := fun others => rfl
    dsimp only
    rw [Batch.footprints_append, Batch.footprints_append, inside, there, shrunk]
    omega
  · refine ⟨less + (Batch.reset ⟨batch, session.engine.memory⟩).item.footprint, ?_,
      gives.trans (Batch.release_gives _ _)⟩
    unfold Engine.discard
    dsimp only
    rw [Batch.footprints_append, Batch.footprints_append, there, shrunk]
    omega

/-- An act makes the batches take more memory or makes them take less, never both. -/
theorem Effect.accounts (effect : Effect session after) :
    Grows footprints session.batches after.batches ∨
      Shrinks footprints session.batches after.batches := by
  cases effect with
  | made => exact .inl (made_grows session)
  | taken stocked => exact .inl (taken_grows stocked)
  | worked shares evolve alike => exact .inl (worked_grows shares evolve alike)
  | emptied present =>
      exact .inr (Batch.shrinks_beside session.engine.pool
        (Batch.shrinks_set present (Batch.reset_shrinks _)))
  | recycled present => exact .inr (recycled_shrinks present)
  | dropped present => exact .inr (dropped_shrinks present)

theorem enter_grows (session : Session) (lent : List (Connection Sock × Nat)) (network : Net) :
    Grows footprints session.batches
      (ofRound (session.enter lent network).1 (session.enter lent network).2).batches := by
  obtain ⟨⟨config, memory, pool⟩, shares⟩ := enter_shares session lent network
  exact worked_grows shares .refl ⟨config, memory, pool⟩

theorem ofRound_grows {round later : Round Net Sock} (evolves : round.Evolves later)
    (kept : List Batch) :
    Grows footprints (ofRound round kept).batches (ofRound later kept).batches := by
  have shares : (ofRound round kept).held.Perm (round.batches.item ++ kept) := .refl _
  exact worked_grows shares evolves.batches ⟨evolves.config, rfl, evolves.pool⟩

/-- In a round the batches take more and more memory, from the moment that it is entered to its
end. -/
theorem during_grows (session : Session) (lent : List (Connection Sock × Nat)) (network : Net)
    (timeout : Duration) (count : Nat) :
    Grows footprints session.batches
        (session.during transport lent network timeout count).batches ∧
      Grows footprints (session.during transport lent network timeout count).batches
        (session.perform transport (.round lent network timeout)).batches := by
  constructor
  · exact (enter_grows session lent network).trans
      (ofRound_grows (Round.midway_evolves transport _ timeout count) _)
  · exact ofRound_grows (Round.execute_evolves transport _ timeout count) _

/-! ### All that a session comes by -/

structure Bounded (config : Config) (session : Session) : Prop where
  settings : session.engine.config = config
  pool : session.engine.pool.length ≤ config.batchPoolSize

theorem Effect.bounded (effect : Effect session after) (bounded : Bounded config session) :
    Bounded config after := by
  obtain ⟨rfl, pool⟩ := bounded
  cases effect with
  | taken stocked =>
      refine ⟨rfl, ?_⟩
      rw [stocked] at pool
      exact Nat.le_of_succ_le pool
  | worked shares evolve alike =>
      refine ⟨alike.config, ?_⟩
      rw [alike.pool]
      exact pool
  | recycled present =>
      unfold Engine.recycle
      dsimp only
      split
      · rename_i room
        exact ⟨rfl, room⟩
      · exact ⟨rfl, pool⟩
  | _ => exact ⟨rfl, pool⟩

structure Accounted (transport : Transport Net Sock) (config : Config) (moment : Moment Net Sock) :
    Prop where
  exact : ∀ {earlier : Moment Net Sock}, earlier.UpTo moment →
    (earlier.session transport config).engine.memory.allocated.toNat =
      (earlier.session transport config).total
  highest : ∃ highest,
    IsGreatest {bytes | ∃ earlier : Moment Net Sock, earlier.UpTo moment ∧
      bytes = (earlier.session transport config).total} highest ∧
    (moment.session transport config).engine.memory.Exact (moment.session transport config).total
      highest

/-- From one moment to a later one, when the batches only took more memory or only took less. -/
theorem Accounted.extend {first last : Moment Net Sock}
    (accounted : Accounted transport config first)
    (small : (last.session transport config).total < 2 ^ 64)
    (accounts : Grows footprints (first.session transport config).batches
        (last.session transport config).batches ∨
      Shrinks footprints (first.session transport config).batches
        (last.session transport config).batches)
    (later : ∀ {moment : Moment Net Sock}, moment.UpTo first → moment.UpTo last)
    (passes : ∀ {moment : Moment Net Sock}, moment.UpTo last → moment.UpTo first ∨ moment = last ∨
      (Grows footprints (first.session transport config).batches
          (moment.session transport config).batches ∧
        Grows footprints (moment.session transport config).batches
          (last.session transport config).batches)) :
    Accounted transport config last := by
  obtain ⟨highest, ⟨⟨top, before, reached⟩, bound⟩, exact⟩ := accounted.highest
  have now : (last.session transport config).engine.memory.Exact
      (last.session transport config).total
      (max highest (last.session transport config).total) := by
    rcases accounts with grows | shrinks
    · exact grows.exact exact small
    · exact shrinks.exact exact
  refine ⟨?_, _, ⟨?_, ?_⟩, now⟩
  · intro earlier upTo
    rcases passes upTo with before | rfl | ⟨grows, on⟩
    · exact accounted.exact before
    · exact now.allocated
    · exact (grows.exact exact (Nat.lt_of_le_of_lt on.le small)).allocated
  · rcases Nat.le_total (last.session transport config).total highest with less | more
    · rw [Nat.max_eq_left less]
      exact ⟨top, later before, reached⟩
    · rw [Nat.max_eq_right more]
      exact ⟨last, last.upTo_self, rfl⟩
  · rintro bytes ⟨earlier, upTo, rfl⟩
    rcases passes upTo with before | rfl | ⟨grows, on⟩
    · exact Nat.le_trans (bound ⟨earlier, before, rfl⟩) (Nat.le_max_left _ _)
    · exact Nat.le_max_right _ _
    · exact Nat.le_trans on.le (Nat.le_max_right _ _)

theorem accounted_run (transport : Transport Net Sock) (config : Config)
    (acts : List (Act Net Sock))
    (small : ∀ earlier : Moment Net Sock, earlier.UpTo (.between acts) →
      (earlier.session transport config).total < 2 ^ 64) :
    Accounted transport config (.between acts) := by
  induction acts using List.reverseRecOn with
  | nil =>
      have first : ∀ {earlier : Moment Net Sock}, earlier.UpTo (.between []) →
          earlier = .between [] := by
        intro earlier upTo
        cases upTo with
        | begun begins => rw [List.prefix_nil.mp begins]
        | ended begins =>
            have empty := List.prefix_nil.mp begins
            exact absurd (List.append_eq_nil_iff.mp empty).2 (List.cons_ne_nil _ _)
      refine ⟨?_, 0, ⟨⟨.between [], Moment.upTo_self _, rfl⟩, ?_⟩, ⟨rfl, rfl, Nat.le_refl 0⟩⟩
      · intro earlier upTo
        rw [first upTo]
        rfl
      · rintro bytes ⟨earlier, upTo, rfl⟩
        rw [first upTo]
        exact Nat.le_refl 0
  | append_singleton acts act ih =>
      have later : ∀ {moment : Moment Net Sock}, moment.UpTo (.between acts) →
          moment.UpTo (.between (acts ++ [act])) :=
        fun upTo => upTo.extend (List.prefix_append acts [act])
      have performed : (Moment.between (acts ++ [act])).session transport config =
          (run transport config acts).perform transport act := run_snoc acts act
      refine (ih fun earlier upTo => small earlier (later upTo)).extend
        (small _ (Moment.upTo_self _)) ?_ later ?_
      · rw [performed]
        exact (effect_perform _ act).accounts
      · intro moment upTo
        rcases upTo.snoc with before | rfl | ⟨lent, network, timeout, count, rfl, rfl⟩
        · exact .inl before
        · exact .inr (.inl rfl)
        · rw [performed]
          exact .inr (.inr (during_grows _ lent network timeout count))

theorem accounted (transport : Transport Net Sock) (config : Config) (moment : Moment Net Sock)
    (small : ∀ earlier : Moment Net Sock, earlier.UpTo moment →
      (earlier.session transport config).total < 2 ^ 64) :
    Accounted transport config moment := by
  cases moment with
  | between acts => exact accounted_run transport config acts small
  | amid acts lent network timeout count =>
      have before := accounted_run transport config acts fun earlier upTo =>
        small earlier (.entered upTo)
      refine before.extend (small _ (Moment.upTo_self _)) (.inl (during_grows _ _ _ _ _).1)
        .entered ?_
      intro moment upTo
      cases upTo with
      | entered earlier => exact .inl earlier
      | stepped less =>
          exact .inr (.inr ⟨(during_grows _ _ _ _ _).1,
            ofRound_grows (Round.midway_on transport _ timeout less) _⟩)

/-- Letting go of the pool gives back what its batches take. -/
theorem discarded_gives (pool : List Batch) (engine : Engine) :
    engine.memory.Gives (footprints pool) (pool.foldl Engine.discard engine).memory := by
  induction pool generalizing engine with
  | nil => exact fun _ _ exact => exact
  | cons batch pool ih =>
      exact (Batch.release_gives batch engine.memory).trans (ih (engine.discard batch))

/-- The accounts of an engine are exact at every moment, in a round and between two acts, as long as
all that was ever held can be counted: what its counter says is held is what the batches in the pool
and those of the callers take, the peak is the most that the counter said so far, the pool is no
larger than its bound, and what a shutdown reports is what the callers still hold. -/
theorem counters_balance (transport : Transport Net Sock) (config : Config)
    (moment : Moment Net Sock)
    (small : ∀ earlier : Moment Net Sock, earlier.UpTo moment →
      (earlier.session transport config).total < 2 ^ 64) :
    let session := moment.session transport config
    session.engine.memory.allocated.toNat =
        footprints session.engine.pool + footprints session.held ∧
      IsGreatest {bytes | ∃ earlier : Moment Net Sock, earlier.UpTo moment ∧
          bytes = (earlier.session transport config).engine.memory.allocated.toNat}
        session.engine.memory.peak.toNat ∧
      session.engine.pool.length ≤ config.batchPoolSize ∧
      session.engine.shutdown.1.toNat = footprints session.held := by
  obtain ⟨exact, highest, ⟨⟨top, before, reached⟩, bound⟩, now⟩ :=
    accounted transport config moment small
  have bounded : Bounded config (moment.session transport config) :=
    moment.kept ⟨rfl, Nat.zero_le _⟩ fun bounded effect => effect.bounded bounded
  refine ⟨now.allocated.trans (total_eq _), ?_, bounded.pool, ?_⟩
  · rw [now.peak]
    refine ⟨⟨top, before, reached.trans (exact before).symm⟩, ?_⟩
    rintro bytes ⟨earlier, upTo, rfl⟩
    rw [exact upTo]
    exact bound ⟨earlier, upTo, rfl⟩
  · rw [total_eq, Nat.add_comm] at now
    exact (discarded_gives _ _ _ _ now).allocated

/-- No round takes more memory in its course than at its end, so the ends of acts are enough. -/
theorem total_lt {acts : List (Act Net Sock)} {bound : Nat}
    (small : ∀ count ≤ acts.length, (run transport config (acts.take count)).total < bound)
    {moment : Moment Net Sock} (upTo : moment.UpTo (.between acts)) :
    (moment.session transport config).total < bound := by
  have ends : ∀ {before : List (Act Net Sock)}, before <+: acts →
      (run transport config before).total < bound := by
    intro before begins
    rw [List.prefix_iff_eq_take.mp begins]
    exact small before.length begins.length_le
  cases upTo with
  | begun begins => exact ends begins
  | @ended before later lent network timeout count begins =>
      have done := ends begins
      rw [run_snoc] at done
      exact Nat.lt_of_le_of_lt (during_grows _ lent network timeout count).2.le done

def thrifty : Config :=
  { readBufferSize := 1, writeBufferSize := 4, maxBufferSize := 8, batchPoolSize := 1 }

def errands : List (Act Unit Unit) :=
  [.make, .use 0 (.write ⟨#[80, 73, 78, 71, 13, 10]⟩ 1),
    .round [(Connection.new ⟨"nowhere", 6379⟩ 255, 0)] () 1000,
    .make, .make, .recycle 0, .recycle 0, .obtain]

theorem counters_balance_errands :
    (run Round.stranded thrifty errands).engine.memory.allocated.toNat =
        footprints (run Round.stranded thrifty errands).engine.pool +
          footprints (run Round.stranded thrifty errands).held ∧
      IsGreatest {bytes | ∃ earlier : Moment Unit Unit, earlier.UpTo (.between errands) ∧
          bytes = (earlier.session Round.stranded thrifty).engine.memory.allocated.toNat}
        (run Round.stranded thrifty errands).engine.memory.peak.toNat ∧
      (run Round.stranded thrifty errands).engine.pool.length ≤ 1 ∧
      (run Round.stranded thrifty errands).engine.shutdown.1.toNat =
        footprints (run Round.stranded thrifty errands).held :=
  counters_balance Round.stranded thrifty (.between errands) fun _ upTo =>
    total_lt (by decide +kernel) upTo

end Session

end Fanout
