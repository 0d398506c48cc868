import Mathlib.Data.List.Induction
import Mathlib.Data.List.Perm.Basic
import Fanout.Proofs.Evolution

/-!
A session: one engine and everything that its callers do with it. Batches are made, used, taken
through rounds, emptied, given back to the engine or dropped, in any order; between two acts every
batch of the engine is in its pool or held by a caller.
-/

set_option autoImplicit false

namespace Fanout

structure Session where
  engine : Engine
  held : List Batch := []

inductive Act (Net Sock : Type) where
  | make
  | obtain
  | use (index : Nat) (use : Batch.Use)
  | reset (index : Nat)
  | recycle (index : Nat)
  | drop (index : Nat)
  | connect (address : String)
  | round (lent : List (Connection Sock × Nat)) (network : Net) (timeout : Duration)
  /-- A round that cannot be had. -/
  | noPoller (network : Net) (error : IoError)

namespace Session

variable {Net Sock : Type}

def receive (session : Session) (made : Batch × Engine) : Session :=
  ⟨made.2, made.1 :: session.held⟩

def revise (session : Session) (index : Nat) (change : Engine → Batch → Batch × Engine) :
    Session :=
  match session.held[index]? with
  | none => session
  | some batch =>
      let changed := change session.engine batch
      ⟨changed.2, session.held.set index changed.1⟩

def surrender (session : Session) (index : Nat) (take : Engine → Batch → Engine) : Session :=
  match session.held[index]? with
  | none => session
  | some batch => ⟨take session.engine batch, session.held.eraseIdx index⟩

/-- Pairs connections with batches. No batch is lent twice. -/
def lend (held : List Batch) : List (Connection Sock × Nat) → List (Pair Sock) × List Batch
  | [] => ([], held)
  | (connection, index) :: others =>
      match held[index]? with
      | none => lend held others
      | some batch =>
          let rest := lend (held.eraseIdx index) others
          (⟨connection, batch⟩ :: rest.1, rest.2)

/-- A new round with the batches that are lent to it, as far as it has room, and the batches that
stay with their callers. -/
def enter (session : Session) (lent : List (Connection Sock × Nat)) (network : Net) :
    Round Net Sock × List Batch :=
  let shares := lend session.held lent
  let round := Round.enlist session.engine network shares.1
  (round, (shares.1.drop round.pairs.length).map Pair.batch ++ shares.2)

def ofRound (round : Round Net Sock) (kept : List Batch) : Session :=
  ⟨round.engine, round.pairs.map Pair.batch ++ kept⟩

variable (transport : Transport Net Sock)

def perform (session : Session) : Act Net Sock → Session
  | .make => session.receive session.engine.newBatch
  | .obtain => session.receive session.engine.batch
  | .use index use =>
      session.revise index fun engine batch => (engine.onBatch batch use.operation).2
  | .reset index => session.revise index Engine.resetBatch
  | .recycle index => session.surrender index Engine.recycle
  | .drop index => session.surrender index Engine.discard
  | .connect address =>
      let opened : Except InvalidAddress (Connection Sock) × Engine :=
        session.engine.connection address
      { session with engine := opened.2 }
  | .round lent network timeout =>
      let entered := session.enter lent network
      ofRound (entered.1.execute transport timeout).2 entered.2
  | .noPoller network error =>
      let opened : Except NoPoller (Round Net Sock) × Engine :=
        Round.open? session.engine network (.error error)
      { session with engine := opened.2 }

/-- The session while a round has made `count` of its steps. -/
def during (session : Session) (lent : List (Connection Sock × Nat)) (network : Net)
    (timeout : Duration) (count : Nat) : Session :=
  let entered := session.enter lent network
  ofRound (entered.1.midway transport timeout count) entered.2

def run (config : Config) (acts : List (Act Net Sock)) : Session :=
  acts.foldl (perform transport) ⟨Engine.new config, []⟩

/-- A moment in the life of a session: between two acts, or in a round that has made `count` of its
steps. -/
inductive Moment (Net Sock : Type) where
  | between (acts : List (Act Net Sock))
  | amid (acts : List (Act Net Sock)) (lent : List (Connection Sock × Nat)) (network : Net)
      (timeout : Duration) (count : Nat)

def Moment.session (config : Config) : Moment Net Sock → Session
  | .between acts => run transport config acts
  | .amid acts lent network timeout count =>
      (run transport config acts).during transport lent network timeout count

inductive Moment.UpTo : Moment Net Sock → Moment Net Sock → Prop where
  | begun {acts later : List (Act Net Sock)} (begins : acts <+: later) :
      UpTo (.between acts) (.between later)
  | ended {acts later : List (Act Net Sock)} {lent : List (Connection Sock × Nat)} {network : Net}
      {timeout : Duration} {count : Nat}
      (begins : acts ++ [.round lent network timeout] <+: later) :
      UpTo (.amid acts lent network timeout count) (.between later)
  | entered {moment : Moment Net Sock} {acts : List (Act Net Sock)}
      {lent : List (Connection Sock × Nat)} {network : Net} {timeout : Duration} {count : Nat}
      (earlier : UpTo moment (.between acts)) :
      UpTo moment (.amid acts lent network timeout count)
  | stepped {acts : List (Act Net Sock)} {lent : List (Connection Sock × Nat)} {network : Net}
      {timeout : Duration} {count later : Nat} (less : count ≤ later) :
      UpTo (.amid acts lent network timeout count) (.amid acts lent network timeout later)

variable {transport} {session : Session} {config : Config}

theorem Moment.upTo_self (moment : Moment Net Sock) : moment.UpTo moment := by
  cases moment with
  | between acts => exact .begun (List.prefix_refl acts)
  | amid acts lent network timeout count => exact .stepped (Nat.le_refl count)

/-- What a session comes by up to an act, and in it. -/
theorem Moment.UpTo.snoc {moment : Moment Net Sock} {acts : List (Act Net Sock)}
    {act : Act Net Sock} (upTo : moment.UpTo (.between (acts ++ [act]))) :
    moment.UpTo (.between acts) ∨ moment = .between (acts ++ [act]) ∨
      ∃ lent network timeout count, act = .round lent network timeout ∧
        moment = .amid acts lent network timeout count := by
  cases upTo with
  | begun begins =>
      rcases List.prefix_concat_iff.mp begins with rfl | earlier
      · exact .inr (.inl rfl)
      · exact .inl (.begun earlier)
  | @ended before later lent network timeout count begins =>
      rcases List.prefix_concat_iff.mp begins with last | earlier
      · obtain ⟨rfl, same⟩ := List.append_inj' last rfl
        cases same
        exact .inr (.inr ⟨lent, network, timeout, count, rfl, rfl⟩)
      · exact .inl (.ended earlier)

theorem Moment.UpTo.extend {moment : Moment Net Sock} {acts more : List (Act Net Sock)}
    (upTo : moment.UpTo (.between acts)) (begins : acts <+: more) :
    moment.UpTo (.between more) := by
  cases upTo with
  | begun earlier => exact .begun (earlier.trans begins)
  | ended earlier => exact .ended (earlier.trans begins)

theorem run_snoc (acts : List (Act Net Sock)) (act : Act Net Sock) :
    run transport config (acts ++ [act]) = (run transport config acts).perform transport act := by
  unfold run
  rw [List.foldl_append]
  rfl

/-! ### Lending -/

theorem perm_of_present {held : List Batch} {index : Nat} {batch : Batch}
    (present : held[index]? = some batch) : held.Perm (batch :: held.eraseIdx index) := by
  obtain ⟨inside, rfl⟩ := List.getElem?_eq_some_iff.mp present
  exact (List.getElem_cons_eraseIdx_perm inside).symm

theorem perm_set {held : List Batch} {index : Nat} {batch : Batch}
    (present : held[index]? = some batch) (changed : Batch) :
    (held.set index changed).Perm (changed :: held.eraseIdx index) := by
  obtain ⟨inside, _⟩ := List.getElem?_eq_some_iff.mp present
  exact List.set_perm_cons_eraseIdx inside changed

theorem perm_lend (held : List Batch) (lent : List (Connection Sock × Nat)) :
    held.Perm ((lend held lent).1.map Pair.batch ++ (lend held lent).2) := by
  induction lent generalizing held with
  | nil => exact .refl held
  | cons first others ih =>
      obtain ⟨connection, index⟩ := first
      unfold lend
      cases present : held[index]? with
      | none => exact ih held
      | some batch => exact (perm_of_present present).trans ((ih _).cons batch)

/-- A round takes as many pairs as it has room for. -/
theorem enlist_pairs (engine : Engine) (network : Net) (pairs : List (Pair Sock)) :
    (Round.enlist engine network pairs).pairs = pairs.take engine.config.maxPairs := by
  have extended : ∀ round : Round Net Sock,
      round.pairs.length ≤ round.engine.config.maxPairs →
      (pairs.foldl (fun round pair => (round.add pair).2) round).pairs =
        round.pairs ++ pairs.take (round.engine.config.maxPairs - round.pairs.length) := by
    induction pairs with
    | nil => simp
    | cons pair pairs ih =>
        intro round room
        rw [List.foldl_cons]
        by_cases full : round.engine.config.maxPairs ≤ round.pairs.length
        · have refused : (round.add pair).2.pairs = round.pairs ∧
              (round.add pair).2.engine.config = round.engine.config := by
            unfold Round.add
            rw [if_pos full]
            exact ⟨rfl, rfl⟩
          have none : round.engine.config.maxPairs - round.pairs.length = 0 := by omega
          rw [ih _ (by rw [refused.1, refused.2]; exact room), refused.1, refused.2, none]
          rfl
        · have added : (round.add pair).2.pairs = round.pairs ++ [pair] ∧
              (round.add pair).2.engine.config = round.engine.config := by
            unfold Round.add
            rw [if_neg full]
            exact ⟨rfl, rfl⟩
          have left : round.engine.config.maxPairs - round.pairs.length =
              round.engine.config.maxPairs - (round.pairs.length + 1) + 1 := by omega
          rw [ih _ (by rw [added.1, added.2, List.length_append, List.length_singleton]; omega),
            added.1, added.2, List.length_append, List.length_singleton, left,
            List.take_succ_cons, List.append_assoc]
          rfl
  exact extended (Round.new engine network) (Nat.zero_le _)

structure Alike (before after : Engine) : Prop where
  config : after.config = before.config
  memory : after.memory = before.memory
  pool : after.pool = before.pool

theorem enlist_alike (engine : Engine) (network : Net) (pairs : List (Pair Sock)) :
    Alike engine (Round.enlist engine network pairs).engine := by
  have extended : ∀ round : Round Net Sock, Alike engine round.engine →
      Alike engine (pairs.foldl (fun round pair => (round.add pair).2) round).engine := by
    induction pairs with
    | nil =>
        intro round same
        exact same
    | cons pair pairs ih =>
        intro round same
        apply ih
        unfold Round.add
        dsimp only
        split <;> exact ⟨same.config, same.memory, same.pool⟩
  exact extended (Round.new engine network) ⟨rfl, rfl, rfl⟩

/-- A round that is entered has some of the batches, and its caller keeps the others. -/
theorem enter_shares (session : Session) (lent : List (Connection Sock × Nat)) (network : Net) :
    Alike session.engine (session.enter lent network).1.engine ∧
      session.held.Perm ((session.enter lent network).1.batches.item ++
        (session.enter lent network).2) := by
  have shares := perm_lend session.held lent
  unfold enter Round.batches
  dsimp only
  generalize lend session.held lent = split at shares ⊢
  refine ⟨enlist_alike _ _ _, ?_⟩
  rw [enlist_pairs, List.length_take, ← List.append_assoc, ← List.map_append]
  rcases Nat.le_total session.engine.config.maxPairs split.1.length with less | more
  · rwa [Nat.min_eq_left less, List.take_append_drop]
  · rwa [Nat.min_eq_right more, List.take_of_length_le more, List.drop_length, List.append_nil]

/-! ### Effects -/

theorem connection_alike (engine : Engine) (address : String) :
    Alike engine
      (engine.connection address : Except InvalidAddress (Connection Sock) × Engine).2 := by
  unfold Engine.connection
  split <;> exact ⟨rfl, rfl, rfl⟩

theorem onBatch_state {α : Type} (engine : Engine) (batch : Batch)
    (operation : Batch.Operation α) :
    (engine.onBatch batch operation).2 =
      ((operation.leaves ⟨batch, engine.memory⟩).item,
        { engine with memory := (operation.leaves ⟨batch, engine.memory⟩).memory }) := by
  unfold Engine.onBatch Attempt.leaves
  cases operation ⟨batch, engine.memory⟩ <;> rfl

theorem onBatch_ok {α : Type} {engine : Engine} {batch : Batch} {operation : Batch.Operation α}
    {value : α} {after : Metered Batch} (done : operation ⟨batch, engine.memory⟩ = .ok value after) :
    engine.onBatch batch operation =
      (.ok value, after.item, { engine with memory := after.memory }) := by
  unfold Engine.onBatch
  rw [done]

theorem onBatch_error {α : Type} {engine : Engine} {batch : Batch} {operation : Batch.Operation α}
    {failure : Failure} {after : Metered Batch}
    (refused : operation ⟨batch, engine.memory⟩ = .error failure after) :
    engine.onBatch batch operation =
      (.error failure, after.item, { engine with memory := after.memory }) := by
  unfold Engine.onBatch
  rw [refused]

inductive Effect (session : Session) : Session → Prop where
  | made : Effect session (session.receive session.engine.newBatch)
  | taken {batch : Batch} {pool : List Batch} (stocked : session.engine.pool = batch :: pool) :
      Effect session ⟨{ session.engine with pool := pool }, batch :: session.held⟩
  | worked {shared kept : List Batch} {after : Metered (List Batch)} {engine : Engine}
      (shares : session.held.Perm (shared ++ kept))
      (evolve : Batch.Evolve ⟨shared, session.engine.memory⟩ after)
      (alike : Alike { session.engine with memory := after.memory } engine) :
      Effect session ⟨engine, after.item ++ kept⟩
  | emptied {index : Nat} {batch : Batch} (present : session.held[index]? = some batch) :
      Effect session ⟨(session.engine.resetBatch batch).2,
        session.held.set index (session.engine.resetBatch batch).1⟩
  | recycled {index : Nat} {batch : Batch} (present : session.held[index]? = some batch) :
      Effect session ⟨session.engine.recycle batch, session.held.eraseIdx index⟩
  | dropped {index : Nat} {batch : Batch} (present : session.held[index]? = some batch) :
      Effect session ⟨session.engine.discard batch, session.held.eraseIdx index⟩

/-- The callers' batches evolve together. -/
theorem effect_evolve {after : Metered (List Batch)} {engine : Engine}
    (evolve : Batch.Evolve ⟨session.held, session.engine.memory⟩ after)
    (alike : Alike { session.engine with memory := after.memory } engine) :
    Effect session ⟨engine, after.item⟩ := by
  have shares : session.held.Perm (session.held ++ []) := by rw [List.append_nil]
  have effect := Effect.worked shares evolve alike
  rwa [List.append_nil] at effect

theorem effect_refl (session : Session) : Effect session session :=
  effect_evolve .refl ⟨rfl, rfl, rfl⟩

theorem effect_use (session : Session) (index : Nat) (use : Batch.Use) :
    Effect session (session.revise index fun engine batch =>
      (engine.onBatch batch use.operation).2) := by
  unfold revise
  cases present : session.held[index]? with
  | none => exact effect_refl session
  | some batch =>
      dsimp only
      rw [onBatch_state]
      have admitted : use.Admitted unchecked batch := by cases use <;> trivial
      have changes := @Batch.Use.changes unchecked ⟨batch, session.engine.memory⟩ use admitted
      exact effect_evolve (.step .refl present changes) ⟨rfl, rfl, rfl⟩

theorem effect_obtain (session : Session) :
    Effect session (session.receive session.engine.batch) := by
  unfold Engine.batch
  split
  · rename_i batch pool stocked
    exact .taken stocked
  · exact .made

theorem effect_reset (session : Session) (index : Nat) :
    Effect session (session.revise index Engine.resetBatch) := by
  unfold revise
  split
  · exact effect_refl session
  · rename_i batch present
    exact .emptied present

theorem effect_surrender (index : Nat) {take : Engine → Batch → Engine}
    (effect : ∀ {batch}, session.held[index]? = some batch →
      Effect session ⟨take session.engine batch, session.held.eraseIdx index⟩) :
    Effect session (session.surrender index take) := by
  unfold surrender
  split
  · exact effect_refl session
  · rename_i batch present
    exact effect present

theorem effect_round {lent : List (Connection Sock × Nat)} {network : Net}
    {round : Round Net Sock}
    (evolves : (session.enter lent network).1.Evolves round) :
    Effect session (ofRound round (session.enter lent network).2) := by
  obtain ⟨alike, shares⟩ := enter_shares session lent network
  have evolve := evolves.batches
  unfold Round.batches at evolve
  rw [alike.memory] at evolve
  exact .worked shares evolve
    ⟨evolves.config.trans alike.config, rfl, evolves.pool.trans alike.pool⟩

theorem effect_during (session : Session) (lent : List (Connection Sock × Nat)) (network : Net)
    (timeout : Duration) (count : Nat) :
    Effect session (session.during transport lent network timeout count) :=
  effect_round (Round.midway_evolves transport _ timeout count)

theorem effect_perform (session : Session) (act : Act Net Sock) :
    Effect session (session.perform transport act) := by
  cases act with
  | make => exact .made
  | obtain => exact effect_obtain session
  | use index use => exact effect_use session index use
  | reset index => exact effect_reset session index
  | recycle index => exact effect_surrender index .recycled
  | drop index => exact effect_surrender index .dropped
  | connect address =>
      obtain ⟨config, memory, pool⟩ := @connection_alike Sock session.engine address
      exact effect_evolve .refl ⟨config, memory, pool⟩
  | round lent network timeout =>
      exact effect_round ((Round.midway_evolves transport _ timeout 0).trans
        (Round.execute_evolves transport _ timeout 0))
  | noPoller network error => exact effect_evolve .refl ⟨rfl, rfl, rfl⟩

/-- What the effects of acts keep holds at every moment. -/
theorem Moment.kept {holds : Session → Prop} (begins : holds ⟨Engine.new config, []⟩)
    (keeps : ∀ {session after : Session}, holds session → Effect session after → holds after)
    (moment : Moment Net Sock) : holds (moment.session transport config) := by
  have ran : ∀ acts : List (Act Net Sock), holds (run transport config acts) := by
    intro acts
    induction acts using List.reverseRecOn with
    | nil => exact begins
    | append_singleton acts act ih =>
        rw [run_snoc]
        exact keeps ih (effect_perform _ act)
  cases moment with
  | between acts => exact ran acts
  | amid acts lent network timeout count => exact keeps (ran acts) (effect_during _ _ _ _ _)

end Session

/-! ### Batches of a session -/

structure Batch.Standing (config : Config) (pooled held : Batch → Prop) : Prop where
  made : held (new config)
  taken : ∀ {batch}, pooled batch → held batch
  changed : ∀ {before after : Metered Batch} {bytes : ByteArray}, held before.item →
    Change unchecked before bytes after → held after.item
  emptied : ∀ {batch : Batch}, held batch → ∀ memory, pooled (reset ⟨batch, memory⟩).item

theorem Batch.Evolve.standing {config : Config} {pooled held : Batch → Prop}
    {before after : Metered (List Batch)} (evolve : Evolve before after)
    (standing : Standing config pooled held) (all : ∀ batch ∈ before.item, held batch) :
    ∀ batch ∈ after.item, held batch := by
  induction evolve with
  | refl => exact all
  | step evolve present changes ih =>
      intro batch among
      rcases List.mem_or_eq_of_mem_set among with same | rfl
      · exact ih batch same
      · exact @Changes.kept _ _ _ _ (fun state => held state.item) changes
          (ih _ (List.mem_of_getElem? present)) standing.changed

namespace Session

variable {Net Sock : Type} {transport : Transport Net Sock} {config : Config}
  {session after : Session} {pooled held : Batch → Prop}

structure Every (config : Config) (pooled held : Batch → Prop) (session : Session) : Prop where
  settings : session.engine.config = config
  pool : ∀ batch ∈ session.engine.pool, pooled batch
  held : ∀ batch ∈ session.held, held batch

theorem Effect.every (effect : Effect session after) (standing : Batch.Standing config pooled held)
    (every : Every config pooled held session) : Every config pooled held after := by
  obtain ⟨rfl, pool, mine⟩ := every
  cases effect with
  | made =>
      constructor
      · rfl
      · exact pool
      · rintro batch (_ | ⟨_, among⟩)
        · exact standing.made
        · exact mine batch among
  | @taken first rest stocked =>
      rw [stocked] at pool
      constructor
      · rfl
      · exact fun batch among => pool batch (List.mem_cons_of_mem first among)
      · rintro batch (_ | ⟨_, among⟩)
        · exact standing.taken (pool first List.mem_cons_self)
        · exact mine batch among
  | @worked shared kept changed engine shares evolve alike =>
      constructor
      · exact alike.config
      · have same : engine.pool = session.engine.pool := alike.pool
        rw [same]
        exact pool
      · intro batch among
        rcases List.mem_append.mp among with worked | left
        · apply evolve.standing standing ?_ batch worked
          intro batch among
          exact mine batch (shares.mem_iff.mpr (List.mem_append_left _ among))
        · exact mine batch (shares.mem_iff.mpr (List.mem_append_right _ left))
  | emptied present =>
      have renewed := standing.emptied (mine _ (List.mem_of_getElem? present))
      constructor
      · rfl
      · exact pool
      · intro batch among
        rcases List.mem_or_eq_of_mem_set among with same | rfl
        · exact mine batch same
        · exact standing.taken (renewed _)
  | @recycled index first present =>
      have renewed := standing.emptied (mine first (List.mem_of_getElem? present))
      have others : ∀ batch ∈ session.held.eraseIdx index, held batch :=
        fun batch among => mine batch (List.mem_of_mem_eraseIdx among)
      unfold Engine.recycle
      dsimp only
      split
      · refine ⟨rfl, ?_, others⟩
        rintro batch (_ | ⟨_, among⟩)
        · exact renewed _
        · exact pool batch among
      · exact ⟨rfl, pool, others⟩
  | dropped present =>
      exact ⟨rfl, pool, fun batch among => mine batch (List.mem_of_mem_eraseIdx among)⟩

/-- At every moment each batch of the engine is as it has to be. -/
theorem Moment.every (standing : Batch.Standing config pooled held) (moment : Moment Net Sock) :
    Every config pooled held (moment.session transport config) :=
  Moment.kept ⟨rfl, nofun, nofun⟩ (fun every effect => effect.every standing every) moment

end Session

end Fanout
