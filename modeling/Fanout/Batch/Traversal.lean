import Fanout.Batch.Basic

/-!
Reading the replies of a batch. The walk visits every reply in command order at depth one and the
elements of an array right behind it at depth two. A walk that came to the end goes on when more
replies arrive.
-/

set_option autoImplicit false

namespace Fanout

structure Visit where
  depth : Nat
  reply : Reply
  deriving DecidableEq, Repr

namespace Cursor

/-- The elements of the array that the cursor is in, from the next one on. -/
def childrenLeft (cursor : Cursor) (replies : Array Reply) : Nat :=
  match cursor.child with
  | none => 0
  | some (parent, index) => ((replies[parent]?.map Reply.elements).getD #[]).size - index

def advanceTop (cursor : Cursor) (replies : Array Reply) : Option (Visit × Cursor) :=
  match replies[cursor.next]? with
  | none => none
  | some reply =>
      let child := if reply.elements.isEmpty then none else some (cursor.next, 0)
      some (⟨1, reply⟩, ⟨cursor.next + 1, child⟩)

/-- The next visit. A cursor behind the last element of an array stays there until a reply follows.
Nobody can tell it from one that has left the array: from either the next reply is what is found. -/
def advance (cursor : Cursor) (replies : Array Reply) : Option (Visit × Cursor) :=
  match cursor.child with
  | none => cursor.advanceTop replies
  | some (parent, index) =>
      match ((replies[parent]?.map Reply.elements).getD #[])[index]? with
      | some element =>
          some (⟨2, .single element⟩, { cursor with child := some (parent, index + 1) })
      | none => cursor.advanceTop replies

/-- Visits everything that is left and returns the cursor at the end. -/
def walk (cursor : Cursor) (replies : Array Reply) : List Visit × Cursor :=
  match _step : cursor.advance replies with
  | none => ([], cursor)
  | some (visit, next) =>
      let (visits, last) := walk next replies
      (visit :: visits, last)
termination_by (replies.size - cursor.next, cursor.childrenLeft replies)
decreasing_by
  have top : cursor.advanceTop replies = some (visit, next) →
      Prod.Lex (· < ·) (· < ·) (replies.size - next.next, next.childrenLeft replies)
        (replies.size - cursor.next, cursor.childrenLeft replies) := by
    intro moved
    unfold advanceTop at moved
    split at moved
    · cases moved
    · rename_i reply found
      have inside := (Array.getElem?_eq_some_iff.mp found).1
      simp only [Option.some.injEq, Prod.mk.injEq] at moved
      rw [← moved.2]
      exact Prod.Lex.left _ _ (by dsimp only; omega)
  unfold advance at _step
  split at _step
  · exact top _step
  · rename_i parent index inChild
    split at _step
    · rename_i element found
      have inside := (Array.getElem?_eq_some_iff.mp found).1
      simp only [Option.some.injEq, Prod.mk.injEq] at _step
      rw [← _step.2]
      have smaller : Cursor.childrenLeft { cursor with child := some (parent, index + 1) } replies <
          cursor.childrenLeft replies := by
        simp only [childrenLeft, inChild]
        omega
      exact Prod.Lex.right _ smaller
    · exact top _step

end Cursor

/-- One reply as its reader sees it. -/
structure Entry where
  depth : Nat
  kind : ReplyKind
  /-- The value; none for nil and array replies. -/
  data : Option ByteArray
  /-- The size of the value, or the number of elements of an array. -/
  length : Nat

namespace Entry

def text (entry : Entry) : Option String := entry.data.bind String.fromUTF8?

def integer (entry : Entry) : Option Int :=
  if entry.kind = .integer then
    entry.data.bind fun data => Decimal.readInteger data.data.toList
  else none

def isError (entry : Entry) : Bool := entry.kind = .error

end Entry

namespace Batch

def entry (batch : Batch) (visit : Visit) : Except Misuse Entry := do
  let data ← batch.replyData visit.reply
  return ⟨visit.depth, visit.reply.kind, data, visit.reply.length⟩

def nextReply : Operation (Option Entry) := fun state =>
  match state.item.cursor.advance state.item.replies with
  | none => .ok none state
  | some (visit, cursor) =>
      let moved := { state with item := { state.item with cursor := cursor } }
      match state.item.entry visit with
      | .ok entry => .ok (some entry) moved
      | .error rule => .error (.misuse rule) moved

/-- All replies from the first on; the position of `nextReply` stays where it is. -/
def entries (batch : Batch) : Except Misuse (List Entry) :=
  (Cursor.walk {} batch.replies).1.mapM batch.entry

def drain : Operation (List Entry) := fun state =>
  let (visits, cursor) := state.item.cursor.walk state.item.replies
  let moved := { state with item := { state.item with cursor := cursor } }
  match visits.mapM state.item.entry with
  | .ok entries => .ok entries moved
  | .error rule => .error (.misuse rule) moved

end Batch

end Fanout
