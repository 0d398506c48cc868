import Fanout.Proofs.Apart

/-!
Connection, socket and registration in step, for connections that keep them apart. Whatever became
of a connection, it can be told from its socket and its state where it is in its life, so its rounds
are rounds of connections that have both in one.
-/

set_option autoImplicit false

namespace Fanout

variable {Net Sock : Type} {transport : Transport Net Sock}

inductive LinkState.Onward : LinkState → LinkState → Prop where
  | connecting : Onward .connecting .connecting
  | established : Onward .connecting .connected
  | connected : Onward .connected .connected
  | given {state : LinkState} (begun : state ≠ .closed) : Onward state .aborted

theorem Link.Onward.apart {first last : Link Sock} (onward : first.Onward last) :
    first.apart.state.Onward last.apart.state := by
  cases onward with
  | connecting socket later => exact .connecting
  | established socket later => exact .established
  | connected socket later => exact .connected
  | aborted => exact .given nofun
  | given alive =>
      apply LinkState.Onward.given
      intro closed
      cases first with
      | closed => cases alive
      | connecting socket => cases closed
      | connected socket => cases closed
      | aborted => cases closed

/-! ### Socket and state in one -/

/-- The link with this socket in this state. Where they are out of step the socket does not
count. -/
def Apart.joined : Apart Sock → Link Sock
  | { stream := some socket, state := .connecting } => .connecting socket
  | { stream := some socket, state := .connected } => .connected socket
  | { stream := _, state := .aborted } => .aborted
  | _ => .closed

def Connection.joined (connection : Connection Sock Apart) : Connection Sock :=
  { endpoint := connection.endpoint
    link := connection.link.joined
    parser := connection.parser
    maxErrorLength := connection.maxErrorLength }

def Pair.joined (pair : Pair Sock Apart) : Pair Sock := ⟨pair.connection.joined, pair.batch⟩

theorem Connection.joined_apart (connection : Connection Sock) :
    connection.apart.joined = connection := by
  obtain ⟨_, link, _, _⟩ := connection
  cases link <;> rfl

namespace Round

variable {round : Round Net Sock Apart} {engine : Engine} {network : Net}
  {pairs : List (Pair Sock Apart)}

def joined (round : Round Net Sock Apart) : Round Net Sock :=
  { engine := round.engine
    network := round.network
    pairs := round.pairs.map Pair.joined
    interests := round.interests
    breach := round.breach }

theorem add_joined (round : Round Net Sock Apart) (pair : Pair Sock Apart) :
    (round.joined.add pair.joined).2 = (round.add pair).2.joined := by
  unfold add joined
  dsimp only
  rw [List.length_map]
  split
  · rfl
  · dsimp only
    rw [List.map_append]
    rfl

theorem enlist_joined (engine : Engine) (network : Net) (pairs : List (Pair Sock Apart)) :
    enlist engine network (pairs.map Pair.joined) = (enlist engine network pairs).joined := by
  unfold enlist
  rw [List.foldl_map]
  exact @List.foldl_hom _ _ _ joined (fun round pair => (round.add pair).2)
    (fun round pair => (round.add pair.joined).2) pairs (new engine network) add_joined

def Joins (round : Round Net Sock Apart) : Prop :=
  ∀ pair ∈ round.pairs, pair.connection.joined.apart = pair.connection

/-- Nothing is lost of a round whose connections are in step. -/
theorem Joins.apart (joins : round.Joins) : round.joined.apart = round := by
  have same : round.pairs.map (Pair.apart ∘ Pair.joined) = round.pairs := by
    conv => rhs; rw [← List.map_id round.pairs]
    apply List.map_congr_left
    intro pair among
    unfold Function.comp Pair.apart Pair.joined
    rw [joins pair among]
    rfl
  unfold Round.apart joined
  rw [List.map_map, same]

theorem Joins.enlist (joins : (enlist engine network pairs).Joins) :
    Round.enlist engine network pairs =
      (Round.enlist engine network (pairs.map Pair.joined)).apart := by
  rw [enlist_joined, joins.apart]

/-- What a round leaves comes from a round of connections that have socket and state in one. -/
theorem Joins.left (joins : (Round.enlist engine network pairs).Joins) {timeout : Duration}
    {ordinal : Nat} {after : Pair Sock Apart}
    (left : ((Round.enlist engine network pairs).execute transport timeout).2.pairs[ordinal]? =
      some after) :
    ∃ pair, ((Round.enlist engine network (pairs.map Pair.joined)).execute transport
        timeout).2.pairs[ordinal]? = some pair ∧ after = pair.apart := by
  rw [joins.enlist, execute_apart, pair_apart] at left
  obtain ⟨pair, there, rfl⟩ := Option.map_eq_some_iff.mp left
  exact ⟨pair, there, rfl⟩

end Round

/-- Whatever became of a connection, its socket and its state are in step. -/
theorem Connection.Lived.joined {connection : Connection Sock Apart}
    (lived : connection.Lived transport) :
    connection.joined.Lived transport ∧ connection.joined.apart = connection := by
  induction lived with
  | new endpoint maxErrorLength => exact ⟨.new endpoint maxErrorLength, rfl⟩
  | @closed connection lived network ih =>
      have closes := @Connection.close_apart _ _ transport connection.joined network
      rw [ih.2] at closes
      change (Apart.close transport connection network).1.joined.Lived transport ∧
        (Apart.close transport connection network).1.joined.apart = _
      rw [closes]
      dsimp only
      rw [Connection.joined_apart]
      exact ⟨.closed ih.1 network, rfl⟩
  | @served engine network pairs timeout ordinal after lived left ih =>
      have joins : (Round.enlist engine network pairs).Joins := fun pair among => (ih pair among).2
      obtain ⟨pair, there, rfl⟩ := joins.left left
      change pair.connection.apart.joined.Lived transport ∧ _
      rw [Connection.joined_apart]
      refine ⟨.served ?_ there, ?_⟩
      · intro pair among
        rw [Round.enlist_joined] at among
        obtain ⟨first, member, rfl⟩ := List.mem_map.mp among
        exact (ih first member).1
      · exact congrArg Connection.apart (Connection.joined_apart _)

theorem Connection.stream_apart (connection : Connection Sock) :
    connection.apart.link.stream.isSome = true ↔
      connection.apart.link.state = .connecting ∨ connection.apart.link.state = .connected := by
  obtain ⟨_, link, _, _⟩ := connection
  cases link <;> simp [Connection.apart, Link.apart]

/-- A connection has a socket just while it is connecting or connected, and without one nothing is
waited for or watched. -/
structure Pair.InStep (pair : Pair Sock Apart) (slot : Slot) : Prop where
  socket : pair.connection.link.stream.isSome = true ↔
    pair.connection.link.state = .connecting ∨ pair.connection.link.state = .connected
  aborted : pair.connection.link.state = .aborted → slot.wanted = .empty ∧ slot.registered = false

namespace Round

end Round

end Fanout
