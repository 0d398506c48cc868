import Fanout.Proofs.Interests
import Fanout.Proofs.Moves

/-!
A turn touches its own slot only: the slots of the other pairs stay as they are, and the count of
outstanding events goes on matching the slots.
-/

set_option autoImplicit false

namespace Fanout.Turn

variable {Net Sock : Type} {transport : Transport Net Sock}
  {before middle after turn : Turn Net Sock}

structure Frames (before after : Turn Net Sock) : Prop where
  ordinal : after.ordinal = before.ordinal
  length : after.interests.slots.length = before.interests.slots.length
  others : ∀ other, other ≠ before.ordinal →
    after.interests.slots[other]? = before.interests.slots[other]?
  balanced : before.interests.Balanced → after.interests.Balanced

def Seated (turn : Turn Net Sock) : Prop := turn.ordinal < turn.interests.slots.length

def wanted (turn : Turn Net Sock) : Readiness :=
  (turn.interests.slots[turn.ordinal]?.map Slot.wanted).getD .empty

namespace Frames

theorem of_same (ordinal : after.ordinal = before.ordinal)
    (interests : after.interests = before.interests) : Frames before after := by
  refine ⟨ordinal, ?_, ?_, ?_⟩
  · rw [interests]
  · intro other _
    rw [interests]
  · intro balanced
    rwa [interests]

theorem refl (turn : Turn Net Sock) : Frames turn turn := of_same rfl rfl

theorem trans (first : Frames before middle) (second : Frames middle after) :
    Frames before after := by
  refine ⟨second.ordinal.trans first.ordinal, second.length.trans first.length, ?_, ?_⟩
  · intro other apart
    have apart' : other ≠ middle.ordinal := by
      rw [first.ordinal]
      exact apart
    exact (second.others other apart').trans (first.others other apart)
  · intro balanced
    exact second.balanced (first.balanced balanced)

theorem of_revises {slot : Slot} (ordinal : after.ordinal = before.ordinal)
    (revises : Interests.Revises before.ordinal slot before.interests after.interests) :
    Frames before after :=
  ⟨ordinal, revises.length, fun _ apart => revises.others apart, revises.balanced⟩

theorem seated (frames : Frames before after) (seated : before.Seated) : after.Seated := by
  unfold Seated at seated ⊢
  rw [frames.ordinal, frames.length]
  exact seated

end Frames

theorem exists_slot (seated : turn.Seated) :
    ∃ slot, turn.interests.slots[turn.ordinal]? = some slot ∧ turn.wanted = slot.wanted := by
  unfold Seated at seated
  unfold wanted
  rw [List.getElem?_eq_getElem seated]
  exact ⟨_, rfl, rfl⟩

theorem wanted_of_revises {slot : Slot} (seated : before.Seated)
    (ordinal : after.ordinal = before.ordinal)
    (revises : Interests.Revises before.ordinal slot before.interests after.interests) :
    after.wanted = slot.wanted := by
  obtain ⟨present, there, _⟩ := exists_slot seated
  unfold wanted
  rw [ordinal, revises.own there]
  rfl

theorem frames_withLink (turn : Turn Net Sock) (link : Link Sock) :
    Frames turn (turn.withLink link) :=
  .of_same rfl rfl

theorem frames_forget (turn : Turn Net Sock) : Frames turn turn.forget := by
  unfold forget
  cases there : turn.interests.slots[turn.ordinal]? with
  | none =>
      rw [Interests.forget_of_none there]
      exact .of_same rfl rfl
  | some slot =>
      obtain ⟨interests, forgets, revises⟩ := Interests.forget_ok there
      rw [forgets]
      exact .of_revises rfl revises

theorem frames_dropSocket (transport : Transport Net Sock) (turn : Turn Net Sock) :
    Frames turn (turn.dropSocket transport) := by
  unfold dropSocket
  split
  · exact .refl turn
  · exact (frames_forget turn).trans (.of_same rfl rfl)

theorem frames_leave (transport : Transport Net Sock) (turn : Turn Net Sock) :
    Frames turn (turn.leave transport) := by
  unfold leave finish
  cases turn.connection.link.socket? with
  | none => exact .refl turn
  | some socket => exact (frames_forget turn).trans (.of_same rfl rfl)

theorem frames_abort (transport : Transport Net Sock) (turn : Turn Net Sock)
    (cause : AbortCause) : Frames turn (turn.abort transport cause) := by
  unfold abort
  split
  · exact .refl turn
  · refine .trans ?_ (frames_withLink _ _)
    refine .trans ?_ (frames_dropSocket _ _)
    exact .of_same rfl rfl

theorem frames_asked {socket later : Sock} {event : Readiness} {refusal : Option IoError}
    {interests : Interests}
    (asks : turn.interests.notify turn.ordinal event transport.watch socket =
      .ok (refusal, interests, later)) :
    Frames turn ({ turn with interests := interests }.withSocket later) := by
  cases there : turn.interests.slots[turn.ordinal]? with
  | none =>
      rw [Interests.notify_of_none there] at asks
      cases asks
  | some slot =>
      obtain ⟨after, answer, revises⟩ := Interests.notify_eq there event transport.watch socket
      cases answer.symm.trans asks
      exact .of_revises rfl revises

theorem frames_move {bytes : ByteArray} (move : Move transport before bytes after) :
    Frames before after := by
  cases move with
  | unreachable closed dials =>
      refine .trans ?_ (frames_abort _ _ _)
      exact .of_same rfl rfl
  | opened closed dials => exact .of_same rfl rfl
  | shaken connecting shakes => exact .of_same rfl rfl
  | established connecting shakes => exact .of_same rfl rfl
  | asked known asks => exact frames_asked asks
  | sent connected sends => exact .of_same rfl rfl
  | received connected runs fine => exact .of_same rfl rfl
  | lost connected runs =>
      refine .trans ?_ (frames_abort _ _ _)
      exact .of_same rfl rfl
  | gaveUp alive => exact frames_abort _ _ _
  | broke known asks => exact .of_same rfl rfl

theorem Moves.frames {bytes : ByteArray} (moves : Moves transport before bytes after) :
    Frames before after := by
  induction moves with
  | refl => exact .refl before
  | step moves busy move ih => exact ih.trans (frames_move move)

end Fanout.Turn
