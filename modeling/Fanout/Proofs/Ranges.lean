import Fanout.Proofs.Grammar

/-!
Where the values of a stream are: the range of every reply and of every element lies inside the
bytes it was read from.
-/

set_option autoImplicit false

namespace Fanout

def Reply.parts (reply : Reply) : List Reply := reply :: reply.elements.toList.map .single

/-- A value in the received bytes lies between two offsets. -/
def Reply.Within (first last : Nat) (reply : Reply) : Prop :=
  reply.source = .received → first ≤ reply.offset ∧ reply.offset + reply.length ≤ last

theorem Reply.Within.mono {first last first' last' : Nat} {reply : Reply}
    (within : reply.Within first last) (before : first' ≤ first) (behind : last ≤ last') :
    reply.Within first' last' := by
  intro received
  obtain ⟨starts, ends⟩ := within received
  exact ⟨Nat.le_trans before starts, Nat.le_trans ends behind⟩

namespace Grammar

variable {offset : Nat} {bytes : List UInt8}

theorem IsElement.within {element : Element} (grammatical : IsElement offset bytes element) :
    (Reply.single element).Within offset (offset + bytes.length) := by
  cases grammatical with
  | nil => exact nofun
  | bulk numeral bounded =>
      intro _
      simp only [Reply.offset, Reply.length, List.length_append]
      omega

theorem AreElements.within {elements : List Element} {element : Element}
    (grammatical : AreElements offset bytes elements) (member : element ∈ elements) :
    (Reply.single element).Within offset (offset + bytes.length) := by
  induction grammatical with
  | nil => cases member
  | cons head tail ih =>
      rw [List.length_append]
      rcases List.mem_cons.mp member with rfl | later
      · exact head.within.mono (Nat.le_refl _) (by omega)
      · exact (ih later).mono (by omega) (by omega)

theorem IsReply.within {reply part : Reply} (grammatical : IsReply offset bytes reply)
    (member : part ∈ reply.parts) : part.Within offset (offset + bytes.length) := by
  cases grammatical with
  | line allowed =>
      rw [List.mem_singleton.mp member]
      intro _
      simp only [Reply.offset, Reply.length, List.length_append, List.length_cons]
      omega
  | single only =>
      have own : part = _ := List.mem_singleton.mp member
      rw [own]
      exact only.within
  | multibulkNil =>
      rw [List.mem_singleton.mp member]
      exact nofun
  | multibulk count bounded children =>
      rcases List.mem_cons.mp member with rfl | child
      · exact nofun
      · obtain ⟨element, inside, rfl⟩ := List.mem_map.mp child
        rw [List.length_append]
        exact (children.within inside).mono (by omega) (by omega)

theorem IsStream.within {replies : List Reply} {reply part : Reply}
    (grammatical : IsStream offset bytes replies) (delivered : reply ∈ replies)
    (member : part ∈ reply.parts) : part.Within offset (offset + bytes.length) := by
  induction grammatical with
  | nil => cases delivered
  | cons head tail ih =>
      rw [List.length_append]
      rcases List.mem_cons.mp delivered with rfl | later
      · exact (head.within member).mono (Nat.le_refl _) (by omega)
      · exact (ih later).mono (by omega) (by omega)

end Grammar

end Fanout
