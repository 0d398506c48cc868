import Mathlib.Data.List.Induction
import Fanout.Proofs.Lifecycle

/-!
What is awaited. Whatever is asked for, delivered and dropped, in any order and also when the poller
refuses a socket, a slot wants a direction exactly if that direction was asked for and nothing has
taken it since; so a request is answered once at most, and the outstanding events are the wanted
directions of all slots.
-/

set_option autoImplicit false

namespace Fanout

inductive Direction where
  | reading
  | writing
  deriving DecidableEq, Repr

namespace Readiness

def has (events : Readiness) : Direction → Bool
  | .reading => events.read
  | .writing => events.write

variable {events wanted : Readiness}

theorem has_asking (event wanted : Readiness) (direction : Direction) :
    (Interests.asking event wanted).has direction =
      (wanted.has direction || event.has direction) := by
  obtain ⟨read, write, timeout, error⟩ := wanted
  cases direction <;> simp [has, Interests.asking, union, without, inter, io] <;>
    cases event.read <;> cases event.write <;> simp_all

theorem has_inter (events wanted : Readiness) (direction : Direction) :
    (events.inter wanted).has direction = (events.has direction && wanted.has direction) := by
  cases direction <;> rfl

theorem has_taken (wanted ready : Readiness) (direction : Direction) :
    (wanted.without (ready.inter wanted)).has direction =
      (wanted.has direction && !ready.has direction) := by
  cases direction <;> simp [has, without, inter] <;> cases ready.read <;> cases ready.write <;> simp

theorem Directed.inter (directed : wanted.Directed) (events : Readiness) :
    (events.inter wanted).Directed := by
  obtain ⟨timeout, error⟩ := directed
  constructor
  · simp [Readiness.inter, timeout]
  · simp [Readiness.inter, error]

end Readiness

namespace Interests

inductive Call where
  | addSlot
  | notify (ordinal : Nat) (event : Readiness) (refusal : Option IoError)
  | consume (ordinal : Nat) (ready : Readiness)
  | takeAll (ordinal : Nat)
  | forget (ordinal : Nat)
  deriving DecidableEq, Repr

namespace Call

def target? : Call → Option Nat
  | .addSlot => none
  | .notify ordinal _ _ | .consume ordinal _ | .takeAll ordinal | .forget ordinal => some ordinal

def Asks (ordinal : Nat) (direction : Direction) : Call → Prop
  | .notify target event _ => target = ordinal ∧ event.has direction = true
  | _ => False

def Takes (ordinal : Nat) (direction : Direction) : Call → Prop
  | .consume target ready => target = ordinal ∧ ready.has direction = true
  | .takeAll target | .forget target => target = ordinal
  | _ => False

end Call

/-- A call to a slot that is not there changes nothing. -/
def perform (interests : Interests) : Call → Interests
  | .addSlot => interests.addSlot
  | .notify ordinal event refusal =>
      match interests.notify ordinal event (Poller.answering refusal) () with
      | .ok (_, after, _) => after
      | .error _ => interests
  | .consume ordinal ready => (interests.consume ordinal ready).2
  | .takeAll ordinal => (interests.takeAll ordinal).2
  | .forget ordinal => (interests.forget ordinal).toOption.getD interests

def delivered (interests : Interests) : Call → Readiness
  | .consume ordinal ready => (interests.consume ordinal ready).1
  | .takeAll ordinal => (interests.takeAll ordinal).1
  | _ => .empty

/-- The interests of a round that was new before these calls. -/
def after (calls : List Call) : Interests := calls.foldl perform {}

theorem after_snoc (calls : List Call) (call : Call) :
    after (calls ++ [call]) = (after calls).perform call := by
  unfold after
  rw [List.foldl_append]
  rfl

/-- A direction was asked for of a slot that was there, and nothing has taken it since. -/
def Awaited (calls : List Call) (ordinal : Nat) (direction : Direction) : Prop :=
  ∃ earlier request later, calls = earlier ++ request :: later ∧
    ordinal < earlier.count .addSlot ∧ request.Asks ordinal direction ∧
      ∀ call ∈ later, ¬call.Takes ordinal direction

variable {interests before : Interests} {calls earlier between : List Call} {call first : Call}
  {ordinal : Nat} {direction : Direction} {slot : Slot}

/-! ### One call -/

def Call.revise (slot : Slot) : Call → Slot
  | .addSlot => slot
  | .notify _ event refusal => (askSlot slot event (Poller.answering refusal) ()).2.1
  | .consume _ ready => { slot with wanted := slot.wanted.without (ready.inter slot.wanted) }
  | .takeAll _ => { slot with wanted := slot.wanted.without (Readiness.io.inter slot.wanted) }
  | .forget _ => forgotten slot

theorem Call.directed_revise (directed : slot.wanted.Directed) (call : Call) :
    (call.revise slot).wanted.Directed := by
  cases call with
  | addSlot => exact directed
  | notify ordinal event refusal =>
      unfold revise
      rw [askSlot_wanted]
      exact Readiness.directed_asking directed event
  | consume ordinal ready => exact directed.without _
  | takeAll ordinal => exact directed.without _
  | forget ordinal => exact directed.without _

/-- A slot wants a direction behind a call if the call asks for it, or if it wanted it before and
the call does not take it. -/
theorem Call.has_revise (target : call.target? = some ordinal) (slot : Slot)
    (direction : Direction) :
    (call.revise slot).wanted.has direction = true ↔
      call.Asks ordinal direction ∨
        slot.wanted.has direction = true ∧ ¬call.Takes ordinal direction := by
  have whole : Readiness.io.has direction = true := by cases direction <;> rfl
  cases call with
  | addSlot => cases target
  | notify own event refusal =>
      cases target
      unfold revise
      rw [askSlot_wanted, Readiness.has_asking]
      simp [Asks, Takes, or_comm]
  | consume own ready =>
      cases target
      unfold revise
      rw [Readiness.has_taken]
      simp [Asks, Takes]
  | takeAll own =>
      cases target
      unfold revise
      rw [Readiness.has_taken]
      simp [Asks, Takes, whole]
  | forget own =>
      cases target
      unfold revise forgotten
      rw [Readiness.has_taken]
      simp [Asks, Takes, whole]

theorem consume_cases (interests : Interests) (ordinal : Nat) (ready : Readiness) :
    (interests.slots[ordinal]? = none ∧ (interests.consume ordinal ready).2 = interests) ∨
      ∃ slot, interests.slots[ordinal]? = some slot ∧
        Revises ordinal { slot with wanted := slot.wanted.without (ready.inter slot.wanted) }
          interests (interests.consume ordinal ready).2 := by
  cases there : interests.slots[ordinal]? with
  | none => exact .inl ⟨rfl, congrArg Prod.snd (consume_of_none there ready)⟩
  | some slot => exact .inr ⟨slot, rfl, consume_revises there ready⟩

/-- What a call does: it adds a slot, or it revises the slot that it is about, if that is there. -/
theorem perform_cases (interests : Interests) (call : Call) :
    call = .addSlot ∨
      ∃ ordinal, call.target? = some ordinal ∧
        ((interests.slots[ordinal]? = none ∧ interests.perform call = interests) ∨
          ∃ slot, interests.slots[ordinal]? = some slot ∧
            Revises ordinal (call.revise slot) interests (interests.perform call)) := by
  cases call with
  | addSlot => exact .inl rfl
  | notify ordinal event refusal =>
      refine .inr ⟨ordinal, rfl, ?_⟩
      cases there : interests.slots[ordinal]? with
      | none => exact .inl ⟨rfl, by simp only [perform, notify_of_none there]⟩
      | some slot =>
          obtain ⟨changed, answer, revises⟩ :=
            notify_eq there event (Poller.answering refusal) ()
          have performs : interests.perform (.notify ordinal event refusal) = changed := by
            simp only [perform, answer]
          rw [performs]
          exact .inr ⟨slot, rfl, revises⟩
  | consume ordinal ready => exact .inr ⟨ordinal, rfl, consume_cases interests ordinal ready⟩
  | takeAll ordinal => exact .inr ⟨ordinal, rfl, consume_cases interests ordinal .io⟩
  | forget ordinal =>
      refine .inr ⟨ordinal, rfl, ?_⟩
      cases there : interests.slots[ordinal]? with
      | none => exact .inl ⟨rfl, by simp only [perform, forget_of_none there]; rfl⟩
      | some slot =>
          obtain ⟨changed, forgets, revises⟩ := forget_ok there
          have performs : interests.perform (.forget ordinal) = changed := by
            simp only [perform, forgets]
            rfl
          rw [performs]
          exact .inr ⟨slot, rfl, revises⟩

/-- A call leaves every slot alone that it is not about. -/
theorem perform_others (interests : Interests) {other : Nat}
    (inside : other < interests.slots.length) (apart : call.target? ≠ some other) :
    (interests.perform call).slots[other]? = interests.slots[other]? := by
  rcases perform_cases interests call with rfl | ⟨ordinal, target, ⟨_, same⟩ | ⟨slot, _, revises⟩⟩
  · exact List.getElem?_append_left inside
  · rw [same]
  · refine revises.others ?_
    rintro rfl
    exact apart target

/-! ### Histories -/

theorem count_snoc (target : call.target? = some ordinal) :
    (calls ++ [call]).count .addSlot = calls.count .addSlot := by
  have other : call ≠ .addSlot := by
    rintro rfl
    cases target
  simp [other]

/-- A call asks for nothing and takes nothing elsewhere than where it is about. -/
theorem Call.elsewhere (target : call.target? = some ordinal) {other : Nat}
    (apart : other ≠ ordinal) (direction : Direction) :
    ¬call.Asks other direction ∧ ¬call.Takes other direction := by
  cases call <;> cases target <;> simp [Asks, Takes, Ne.symm apart]

theorem Awaited.lt (awaited : Awaited calls ordinal direction) :
    ordinal < calls.count .addSlot := by
  obtain ⟨earlier, request, later, rfl, inside, _⟩ := awaited
  rw [List.count_append]
  omega

theorem awaited_snoc :
    Awaited (calls ++ [call]) ordinal direction ↔
      (ordinal < calls.count .addSlot ∧ call.Asks ordinal direction) ∨
        (Awaited calls ordinal direction ∧ ¬call.Takes ordinal direction) := by
  constructor
  · rintro ⟨earlier, request, later, whole, inside, asks, untaken⟩
    rcases List.eq_nil_or_concat later with rfl | ⟨rest, last, rfl⟩
    · obtain ⟨rfl, same⟩ := List.append_inj' whole rfl
      cases same
      exact .inl ⟨inside, asks⟩
    · rw [List.concat_eq_append, ← List.cons_append, ← List.append_assoc] at whole
      obtain ⟨rfl, same⟩ := List.append_inj' whole rfl
      cases same
      rw [List.concat_eq_append] at untaken
      refine .inr ⟨⟨earlier, request, rest, rfl, inside, asks, ?_⟩, ?_⟩
      · exact fun other member => untaken other (List.mem_append_left _ member)
      · exact untaken call (List.mem_append_right _ List.mem_cons_self)
  · rintro (⟨inside, asks⟩ | ⟨⟨earlier, request, later, rfl, inside, asks, untaken⟩, other⟩)
    · exact ⟨calls, call, [], rfl, inside, asks, nofun⟩
    · refine ⟨earlier, request, later ++ [call], by simp, inside, asks, ?_⟩
      intro last member
      rcases List.mem_append.mp member with among | same
      · exact untaken last among
      · rwa [List.mem_singleton.mp same]

/-- What was taken is awaited only if it was asked for again. -/
theorem Awaited.asked_again (takes : first.Takes ordinal direction)
    (awaited : Awaited (earlier ++ first :: between) ordinal direction) :
    ∃ request ∈ between, request.Asks ordinal direction := by
  have apart : ¬first.Asks ordinal direction := by
    cases first <;> first | exact id | cases takes
  induction between using List.reverseRecOn with
  | nil =>
      rcases awaited_snoc.mp awaited with ⟨_, asks⟩ | ⟨_, untaken⟩
      · exact absurd asks apart
      · exact absurd takes untaken
  | append_singleton between last ih =>
      rw [← List.cons_append, ← List.append_assoc] at awaited
      rcases awaited_snoc.mp awaited with ⟨_, asks⟩ | ⟨earlier, _⟩
      · exact ⟨last, List.mem_append_right _ List.mem_cons_self, asks⟩
      · obtain ⟨request, member, asks⟩ := ih earlier
        exact ⟨request, List.mem_append_left _ member, asks⟩

structure Exact (calls : List Call) (interests : Interests) : Prop where
  length : interests.slots.length = calls.count .addSlot
  directed : ∀ slot ∈ interests.slots, slot.wanted.Directed
  balanced : interests.Balanced
  awaited : ∀ {ordinal : Nat} {slot : Slot}, interests.slots[ordinal]? = some slot →
    ∀ direction, slot.wanted.has direction = true ↔ Awaited calls ordinal direction

theorem exact_new : Exact [] {} := by
  refine ⟨rfl, nofun, rfl, ?_⟩
  intro ordinal slot there
  cases there

theorem Exact.added (exact : Exact calls interests) :
    Exact (calls ++ [.addSlot]) interests.addSlot := by
  obtain ⟨length, directed, balanced, awaited⟩ := exact
  have asks : ∀ ordinal direction, Awaited (calls ++ [.addSlot]) ordinal direction ↔
      Awaited calls ordinal direction := by
    intro ordinal direction
    simp [awaited_snoc, Call.Asks, Call.Takes]
  refine ⟨?_, ?_, ?_, ?_⟩
  · simp [addSlot, length]
  · intro slot member
    rcases List.mem_append.mp member with among | same
    · exact directed slot among
    · rw [List.mem_singleton.mp same]
      exact ⟨rfl, rfl⟩
  · unfold Balanced at balanced ⊢
    unfold addSlot
    rw [wantedCount_append, ← balanced]
    rfl
  · intro ordinal slot there direction
    rw [asks]
    unfold addSlot at there
    rcases Nat.lt_or_ge ordinal interests.slots.length with inside | outside
    · rw [List.getElem?_append_left inside] at there
      exact awaited there direction
    · have fresh : slot ∈ [({} : Slot)] := by
        rw [List.getElem?_append_right outside] at there
        exact List.mem_of_getElem? there
      rw [List.mem_singleton.mp fresh]
      constructor
      · intro wants
        cases direction <;> cases wants
      · intro early
        have less := early.lt
        omega

theorem Exact.revised (exact : Exact calls interests) (target : call.target? = some ordinal)
    (there : interests.slots[ordinal]? = some slot)
    (revises : Revises ordinal (call.revise slot) interests before) :
    Exact (calls ++ [call]) before := by
  obtain ⟨length, directed, balanced, awaited⟩ := exact
  refine ⟨?_, ?_, revises.balanced balanced, ?_⟩
  · rw [revises.length, length, count_snoc target]
  · intro other member
    rw [revises.slots] at member
    rcases List.mem_or_eq_of_mem_set member with among | rfl
    · exact directed other among
    · exact Call.directed_revise (directed slot (List.mem_of_getElem? there)) call
  · intro other present found direction
    rw [awaited_snoc]
    by_cases own : other = ordinal
    · subst own
      rw [revises.own there] at found
      cases found
      have inside : other < calls.count .addSlot := by
        rw [← length]
        exact (List.getElem?_eq_some_iff.mp there).1
      rw [Call.has_revise target, awaited there direction, and_iff_right inside]
    · rw [revises.others own] at found
      simp [awaited found direction, Call.elsewhere target own direction]

theorem Exact.missed (exact : Exact calls interests) (target : call.target? = some ordinal)
    (missing : interests.slots[ordinal]? = none) : Exact (calls ++ [call]) interests := by
  obtain ⟨length, directed, balanced, awaited⟩ := exact
  refine ⟨by rw [length, count_snoc target], directed, balanced, ?_⟩
  intro other present found direction
  have apart : other ≠ ordinal := by
    rintro rfl
    rw [missing] at found
    cases found
  simp [awaited_snoc, awaited found direction, Call.elsewhere target apart direction]

/-- Every call keeps the interests exact. -/
theorem Exact.perform (exact : Exact calls interests) (call : Call) :
    Exact (calls ++ [call]) (interests.perform call) := by
  rcases perform_cases interests call with rfl | ⟨ordinal, target, missed | ⟨slot, there, revises⟩⟩
  · exact exact.added
  · obtain ⟨missing, same⟩ := missed
    rw [same]
    exact exact.missed target missing
  · exact exact.revised target there revises

theorem exact_after (calls : List Call) : Exact calls (after calls) := by
  induction calls using List.reverseRecOn with
  | nil => exact exact_new
  | append_singleton calls call ih =>
      rw [after_snoc]
      exact ih.perform call

/-! ### Deliveries -/

structure Consumes (calls : List Call) (ordinal : Nat) (ready : Readiness)
    (outcome : Readiness × Interests) : Prop where
  /-- The offered events that the slot wanted, and none if there is no such slot. -/
  hit : outcome.1 = ready.inter (((after calls).slots[ordinal]?.map Slot.wanted).getD .empty)
  directed : outcome.1.Directed
  /-- So much can be taken from the outstanding events. -/
  covered : outcome.1.count ≤ (after calls).outstanding
  counted : outcome.2.outstanding + outcome.1.count = (after calls).outstanding
  /-- A direction is delivered exactly if it is offered and awaited. -/
  awaited : ∀ direction, outcome.1.has direction = true ↔
    ready.has direction = true ∧ Awaited calls ordinal direction

theorem consume_consumes (calls : List Call) (ordinal : Nat) (ready : Readiness) :
    Consumes calls ordinal ready ((after calls).consume ordinal ready) := by
  obtain ⟨length, directed, balanced, awaited⟩ := exact_after calls
  cases there : (after calls).slots[ordinal]? with
  | none =>
      have outside : ¬ordinal < calls.count .addSlot := by
        rw [← length]
        exact Nat.not_lt_of_le (List.getElem?_eq_none_iff.mp there)
      rw [consume_of_none there]
      refine ⟨?_, ⟨rfl, rfl⟩, Nat.zero_le _, rfl, ?_⟩
      · rw [there]
        simp [Readiness.inter, Readiness.empty]
      · intro direction
        constructor
        · intro wants
          cases direction <;> cases wants
        · exact fun both => absurd both.2.lt outside
  | some slot =>
      have hit := consume_hit there ready
      have member := List.mem_of_getElem? there
      have most := count_le_outstanding balanced there
      have parts := Readiness.count_without_inter slot.wanted ready
      have changed : ((after calls).consume ordinal ready).2.outstanding =
          (after calls).outstanding - (ready.inter slot.wanted).count := by
        unfold consume
        rw [there]
      refine ⟨?_, ?_, ?_, ?_, ?_⟩
      · rw [hit, there]
        rfl
      · rw [hit]
        exact (directed slot member).inter ready
      · rw [hit]
        omega
      · rw [hit, changed]
        omega
      · intro direction
        rw [hit, Readiness.has_inter, Bool.and_eq_true, awaited there direction]

def Delivers (calls : List Call) (call : Call) (ordinal : Nat) (direction : Direction) : Prop :=
  call.target? = some ordinal ∧ ((after calls).delivered call).has direction = true

theorem Delivers.awaited (delivers : Delivers calls call ordinal direction) :
    call.Takes ordinal direction ∧ Awaited calls ordinal direction := by
  obtain ⟨target, hit⟩ := delivers
  cases call with
  | consume own ready =>
      cases target
      obtain ⟨offered, awaited⟩ := ((consume_consumes calls ordinal ready).awaited direction).mp hit
      exact ⟨⟨rfl, offered⟩, awaited⟩
  | takeAll own =>
      cases target
      exact ⟨rfl, (((consume_consumes calls ordinal .io).awaited direction).mp hit).2⟩
  | addSlot => cases target
  | notify own event refusal => cases direction <;> cases hit
  | forget own => cases direction <;> cases hit

/-- The bookkeeping is exact, whatever was asked for, delivered and dropped before. Slots want
directions only, the outstanding events are their sum, offering events delivers just those that are
awaited and takes just them from the sum, a direction is not delivered twice without a request in
between, and a call changes no slot but the one that it is about. -/
theorem bookkeeping_exact (calls : List Call) :
    Exact calls (after calls) ∧
      (after calls).outstanding = wantedCount (after calls).slots ∧
      (∀ ordinal ready, Consumes calls ordinal ready ((after calls).consume ordinal ready)) ∧
      (∀ earlier first between second ordinal direction, calls = earlier ++ first :: between →
        Delivers earlier first ordinal direction → Delivers calls second ordinal direction →
        ∃ request ∈ between, request.Asks ordinal direction) ∧
      ∀ call other, other < (after calls).slots.length → call.target? ≠ some other →
        ((after calls).perform call).slots[other]? = (after calls).slots[other]? := by
  refine ⟨exact_after calls, (exact_after calls).balanced, ?_, ?_, ?_⟩
  · exact consume_consumes calls
  · rintro earlier first between second ordinal direction rfl once twice
    exact twice.awaited.2.asked_again once.awaited.1
  · intro call other inside apart
    exact perform_others _ inside apart

/-- Reading is asked for although the poller refuses, and is delivered; then once more. -/
theorem bookkeeping_exact_refused :
    ∃ request ∈ [Call.consume 0 .io, .notify 0 .reading none], request.Asks 0 .reading := by
  obtain ⟨_, _, _, once, _⟩ := bookkeeping_exact
    [.addSlot, .notify 0 .reading (some .brokenPipe), .consume 0 .reading, .consume 0 .io,
      .notify 0 .reading none]
  exact once [.addSlot, .notify 0 .reading (some .brokenPipe)] (.consume 0 .reading)
    [.consume 0 .io, .notify 0 .reading none] (.takeAll 0) 0 .reading rfl ⟨rfl, by decide⟩
    ⟨rfl, by decide⟩

end Interests

end Fanout
