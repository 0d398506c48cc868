import Fanout.Proofs.Lasting

/-!
Visiting the replies. A batch hands out its replies one after the other, each at depth one with its
elements right behind it at depth two. What was handed out and what the cursor has ahead of it make
up all replies, and more replies only lengthen what is ahead; so no reply is left out or handed out
twice, whatever is done with the batch in between.
-/

set_option autoImplicit false

namespace Fanout

/-- A reply, and its elements right behind it. -/
def Reply.visits (reply : Reply) : List Visit :=
  ⟨1, reply⟩ :: reply.elements.toList.map fun element => ⟨2, .single element⟩

/-! ### The cursor -/

namespace Cursor

def elementsAhead (cursor : Cursor) (replies : Array Reply) : List Element :=
  match cursor.child with
  | none => []
  | some (parent, index) => ((replies[parent]?.map Reply.elements).getD #[]).toList.drop index

/-- What the cursor has still to visit. -/
def ahead (cursor : Cursor) (replies : Array Reply) : List Visit :=
  (cursor.elementsAhead replies).map (fun element => ⟨2, .single element⟩) ++
    (replies.toList.drop cursor.next).flatMap Reply.visits

structure Inside (cursor : Cursor) (replies : Array Reply) : Prop where
  next : cursor.next ≤ replies.size
  child : ∀ {parent index : Nat}, cursor.child = some (parent, index) → parent < replies.size

variable {cursor next : Cursor} {replies : Array Reply} {visit : Visit}

theorem ahead_new (replies : Array Reply) :
    ahead {} replies = replies.toList.flatMap Reply.visits :=
  rfl

theorem inside_new (replies : Array Reply) : Inside {} replies := ⟨Nat.zero_le _, nofun⟩

theorem ahead_of_reply {reply : Reply} (found : replies[cursor.next]? = some reply) :
    (replies.toList.drop cursor.next).flatMap Reply.visits =
      reply.visits ++ (replies.toList.drop (cursor.next + 1)).flatMap Reply.visits := by
  rw [← Array.getElem?_toList] at found
  obtain ⟨inside, rfl⟩ := List.getElem?_eq_some_iff.mp found
  rw [List.drop_eq_getElem_cons inside, List.flatMap_cons]

/-- Between two replies, the cursor goes on to the next one and into its elements. -/
theorem advanceTop_ahead (cursor : Cursor) (replies : Array Reply) :
    match cursor.advanceTop replies with
    | none => (replies.toList.drop cursor.next).flatMap Reply.visits = []
    | some (visit, next) =>
        (replies.toList.drop cursor.next).flatMap Reply.visits = visit :: next.ahead replies ∧
          next.Inside replies := by
  unfold advanceTop
  cases found : replies[cursor.next]? with
  | none =>
      rw [List.drop_eq_nil_of_le (by simpa using found)]
      rfl
  | some reply =>
      have there := (Array.getElem?_eq_some_iff.mp found).1
      rw [ahead_of_reply found]
      dsimp only
      by_cases empty : reply.elements.isEmpty = true
      · rw [if_pos empty]
        have none : reply.elements = #[] := Array.isEmpty_iff.mp empty
        refine ⟨?_, there, nofun⟩
        unfold Reply.visits
        rw [none]
        rfl
      · rw [if_neg empty]
        refine ⟨?_, there, ?_⟩
        · unfold Reply.visits ahead elementsAhead
          dsimp only
          rw [found]
          rfl
        · rintro parent index ⟨⟩
          exact there

/-- Every step visits what was the first ahead, and there is no step just when nothing is ahead. -/
theorem advance_ahead (inside : cursor.Inside replies) :
    match cursor.advance replies with
    | none => cursor.ahead replies = []
    | some (visit, next) =>
        cursor.ahead replies = visit :: next.ahead replies ∧ next.Inside replies := by
  have top := advanceTop_ahead cursor replies
  unfold advance
  cases within : cursor.child with
  | none =>
      have same : cursor.ahead replies =
          (replies.toList.drop cursor.next).flatMap Reply.visits := by
        unfold ahead elementsAhead
        rw [within]
        rfl
      rw [same]
      exact top
  | some place =>
      obtain ⟨parent, index⟩ := place
      dsimp only
      cases found : ((replies[parent]?.map Reply.elements).getD #[])[index]? with
      | none =>
          have same : cursor.ahead replies =
              (replies.toList.drop cursor.next).flatMap Reply.visits := by
            unfold ahead elementsAhead
            rw [within]
            dsimp only
            rw [List.drop_eq_nil_of_le (by simpa using found)]
            rfl
          rw [same]
          exact top
      | some element =>
          rw [← Array.getElem?_toList] at found
          obtain ⟨left, same⟩ := List.getElem?_eq_some_iff.mp found
          refine ⟨?_, inside.next, ?_⟩
          · unfold ahead elementsAhead
            rw [within]
            dsimp only
            rw [List.drop_eq_getElem_cons left, same]
            rfl
          · rintro other later ⟨⟩
            exact inside.child within

/-- More replies lengthen what is ahead. -/
theorem ahead_of_prefix {longer : Array Reply} {more : List Reply} (inside : cursor.Inside replies)
    (grown : longer.toList = replies.toList ++ more) :
    cursor.ahead longer = cursor.ahead replies ++ more.flatMap Reply.visits ∧
      cursor.Inside longer := by
  have size : longer.size = replies.size + more.length := by
    rw [← Array.length_toList, grown, List.length_append, Array.length_toList]
  have kept : ∀ parent < replies.size, longer[parent]? = replies[parent]? := by
    intro parent there
    rw [← Array.getElem?_toList, ← Array.getElem?_toList, grown,
      List.getElem?_append_left (by simpa using there)]
  have elements : cursor.elementsAhead longer = cursor.elementsAhead replies := by
    unfold elementsAhead
    cases within : cursor.child with
    | none => rfl
    | some place =>
        obtain ⟨parent, index⟩ := place
        dsimp only
        rw [kept parent (inside.child within)]
  constructor
  · unfold ahead
    rw [elements, grown, List.drop_append_of_le_length (by simpa using inside.next),
      List.flatMap_append, List.append_assoc]
  · constructor
    · have before := inside.next
      omega
    · intro parent index within
      have before := inside.child within
      omega

/-- A walk visits all that is ahead. -/
theorem walk_ahead (inside : cursor.Inside replies) :
    (cursor.walk replies).1 = cursor.ahead replies ∧
      (cursor.walk replies).2.ahead replies = [] ∧ (cursor.walk replies).2.Inside replies := by
  fun_induction walk cursor replies with
  | case1 cursor ended =>
      have step := advance_ahead inside
      rw [ended] at step
      exact ⟨step.symm, step, inside⟩
  | case2 cursor visit next moved visits last walked ih =>
      have step := advance_ahead inside
      rw [moved] at step
      obtain ⟨first, within⟩ := step
      have rest := ih within
      rw [walked] at rest
      obtain ⟨all, ends⟩ := rest
      exact ⟨by rw [first, ← all], ends⟩

end Cursor

/-! ### What leaves the cursor alone -/

namespace Batch

def Still {α : Type} (operation : Operation α) : Prop :=
  ∀ state, (operation.leaves state).item.cursor = state.item.cursor

theorem Still.bind {α β : Type} {first : Operation α} {second : α → Operation β}
    (one : Still first) (two : ∀ value, Still (second value)) : Still (first >>= second) := by
  intro state
  have head := one state
  unfold Attempt.leaves at head ⊢
  simp only [Bind.bind, EStateM.bind]
  cases ran : first state with
  | error failure middle =>
      rw [ran] at head
      exact head
  | ok value middle =>
      rw [ran] at head
      exact (two value middle).trans head

theorem still_requireUnsent : Still requireUnsent := by
  intro state
  unfold Attempt.leaves requireUnsent
  cases state.item.sent <;> rfl

theorem still_onWriteBuffer {α : Type} (operation : Buffer.Operation α) :
    Still (onWriteBuffer operation) := by
  intro state
  unfold Attempt.leaves onWriteBuffer Attempt.within
  cases operation ⟨state.item.writeBuffer, state.memory⟩ <;> rfl

theorem still_onReadBuffer {α : Type} (operation : Buffer.Operation α) :
    Still (onReadBuffer operation) := by
  intro state
  unfold Attempt.leaves onReadBuffer Attempt.within
  cases operation ⟨state.item.readBuffer, state.memory⟩ <;> rfl

theorem still_count (commands : Nat) : Still (count commands) := by
  intro state
  unfold Attempt.leaves count
  by_cases countable : state.item.pending + commands ≤ largestWord
  · rw [dif_pos countable]
  · rw [dif_neg countable]

theorem still_write (bytes : ByteArray) (commands : Nat) : Still (write bytes commands) := by
  apply still_requireUnsent.bind
  intro _
  apply (still_onWriteBuffer _).bind
  intro _
  exact still_count commands

theorem still_writeArguments (arguments : List ByteArray) : Still (writeArguments arguments) := by
  induction arguments with
  | nil => exact fun _ => rfl
  | cons argument others ih =>
      apply (still_write _ _).bind
      intro _
      apply (still_write _ _).bind
      intro _
      apply (still_write _ _).bind
      intro _
      exact ih

theorem still_writeCommand (arguments : List ByteArray) : Still (writeCommand arguments) := by
  unfold writeCommand
  cases arguments.isEmpty with
  | true => exact fun _ => rfl
  | false =>
      apply still_requireUnsent.bind
      intro _
      apply (still_onWriteBuffer _).bind
      intro _
      apply (still_write _ _).bind
      intro _
      exact still_writeArguments arguments

theorem still_startSending (batch : Batch) : batch.startSending.cursor = batch.cursor := by
  unfold startSending
  split <;> rfl

theorem still_sendOnce (answer : SendAnswer) : Still (sendOnce answer) := by
  intro state
  unfold Attempt.leaves sendOnce
  dsimp only
  cases (state.item.writeBuffer.send (fun (_ : Unit) _ => (answer, ())) ()).1 <;> rfl

theorem still_receiveOnce (answer : ReceiveAnswer) : Still (receiveOnce answer) := by
  intro state
  unfold Attempt.leaves receiveOnce
  dsimp only
  cases (Buffer.receive (fun (_ : Unit) _ => (answer, ())) () (receiving state)).1 <;> rfl

theorem still_pushReply (reply : Reply) : Still (pushReply reply) := by
  intro state
  unfold Attempt.leaves pushReply
  cases state.item.hasPending <;> rfl

theorem still_abort (text : String) : Still (abort text) := by
  intro state
  unfold Attempt.leaves abort
  cases state.item.isAborted <;> rfl

end Batch

namespace Intake

variable {Net Sock : Type}

theorem cursor_receive {transport : Transport Net Sock} {intake next : Intake Sock}
    {result : Except Failure Nat} (received : intake.receive transport = (result, next)) :
    next.batch.cursor = intake.batch.cursor := by
  cases received
  rfl

theorem cursor_run (transport : Transport Net Sock) (intake : Intake Sock) :
    (intake.run transport).2.batch.cursor = intake.batch.cursor := by
  fun_induction run transport intake with
  | case1 => rfl
  | case2 intake busy parser reply ran ih => exact ih
  | case3 => rfl
  | case4 intake busy parser ran next received =>
      have kept := cursor_receive received
      exact kept
  | case5 intake busy parser ran count next received ih =>
      have kept := cursor_receive received
      exact ih.trans kept
  | case6 intake busy parser ran next received =>
      have kept := cursor_receive received
      exact kept
  | case7 intake busy parser ran next received ih =>
      have kept := cursor_receive received
      exact ih.trans kept
  | case8 intake busy parser ran failure next _ _ received =>
      have kept := cursor_receive received
      exact kept

end Intake

variable {Net Sock : Type} {transport : Transport Net Sock}

theorem Turn.cursor_abort (transport : Transport Net Sock) (turn : Turn Net Sock)
    (cause : AbortCause) : (turn.abort transport cause).batch.cursor = turn.batch.cursor := by
  cases gone : turn.connection.link.isAborted with
  | true => rw [abort_of_aborted gone]
  | false =>
      rw [abort_batch gone]
      split <;> rfl

theorem Turn.Move.cursor {before after : Turn Net Sock} {bytes : ByteArray}
    (move : Move transport before bytes after) : after.batch.cursor = before.batch.cursor := by
  cases move with
  | unreachable closed dials => exact cursor_abort transport _ _
  | @received socket ended intake connected runs fine =>
      have kept := Intake.cursor_run transport (before.intake socket)
      rw [runs] at kept
      exact kept
  | @lost socket cause intake connected runs =>
      have kept := Intake.cursor_run transport (before.intake socket)
      rw [runs] at kept
      exact (cursor_abort transport _ cause).trans kept
  | gaveUp alive => exact cursor_abort transport before _
  | _ => rfl

theorem Served.cursor {entry pair : Pair Sock} {bytes : ByteArray}
    (served : Served transport entry bytes pair) : pair.batch.cursor = entry.batch.cursor := by
  induction served with
  | entered => rfl
  | move served busy move ih => exact move.cursor.trans ih

/-! ### The entries of visits -/

namespace Batch

variable {batch first second : Batch} {bytes : ByteArray} {handed : List Entry} {visit : Visit}

/-- Every reply with its elements, in order. -/
def visits (batch : Batch) : List Visit := batch.replies.toList.flatMap Reply.visits

theorem part_of_visit (among : visit ∈ batch.visits) :
    ∃ reply ∈ batch.replies.toList, visit.reply ∈ reply.parts := by
  obtain ⟨reply, there, member⟩ := List.mem_flatMap.mp among
  refine ⟨reply, there, ?_⟩
  rcases List.mem_cons.mp member with rfl | child
  · exact List.mem_cons_self
  · obtain ⟨element, inside, rfl⟩ := List.mem_map.mp child
    exact List.mem_cons_of_mem _ (List.mem_map_of_mem inside)

theorem Readable.entry (readable : batch.Readable) (among : visit ∈ batch.visits) :
    ∃ entry, batch.entry visit = .ok entry := by
  obtain ⟨reply, there, member⟩ := part_of_visit among
  obtain ⟨data, reads, _⟩ := readable.replyData there member
  refine ⟨⟨visit.depth, visit.reply.kind, data, visit.reply.length⟩, ?_⟩
  unfold Batch.entry
  rw [reads]
  rfl

theorem Readable.entries (readable : batch.Readable) {some : List Visit}
    (among : ∀ visit ∈ some, visit ∈ batch.visits) :
    ∃ entries, some.mapM batch.entry = .ok entries := by
  induction some with
  | nil => exact ⟨[], rfl⟩
  | cons visit rest ih =>
      obtain ⟨entry, reads⟩ := readable.entry (among visit List.mem_cons_self)
      obtain ⟨entries, others⟩ := ih fun other member => among other (List.mem_cons_of_mem _ member)
      refine ⟨entry :: entries, ?_⟩
      rw [List.mapM_cons, reads, others]
      rfl

theorem entries_append {front back : List Visit} {one two : List Entry}
    (reads : front.mapM batch.entry = .ok one) (reads' : back.mapM batch.entry = .ok two) :
    (front ++ back).mapM batch.entry = .ok (one ++ two) := by
  rw [List.mapM_append, reads, reads']
  rfl

/-- What was visited reads the same later on. -/
theorem Outlasts.entries (outlasts : Outlasts bytes first second) (readable : first.Readable)
    {some : List Visit} (among : ∀ visit ∈ some, visit ∈ first.visits) :
    some.mapM second.entry = some.mapM first.entry := by
  induction some with
  | nil => rfl
  | cons visit rest ih =>
      obtain ⟨reply, there, member⟩ := part_of_visit (among visit List.mem_cons_self)
      have same : second.entry visit = first.entry visit := by
        unfold Batch.entry
        rw [outlasts.replyData readable there member]
      rw [List.mapM_cons, List.mapM_cons, same,
        ih fun other inside => among other (List.mem_cons_of_mem _ inside)]

theorem Outlasts.visits (outlasts : Outlasts bytes first second) :
    ∃ more : List Reply, second.replies.toList = first.replies.toList ++ more ∧
      second.visits = first.visits ++ more.flatMap Reply.visits := by
  obtain ⟨more, grown⟩ := outlasts.appends.replies
  refine ⟨more, grown.symm, ?_⟩
  unfold Batch.visits
  rw [← grown, List.flatMap_append]

structure Toured (handed : List Entry) (batch : Batch) : Prop where
  readable : batch.Readable
  inside : batch.cursor.Inside batch.replies
  behind : ∃ behind, batch.visits = behind ++ batch.cursor.ahead batch.replies ∧
    behind.mapM batch.entry = .ok handed

theorem Toured.outlasts (toured : Toured handed first) (outlasts : Outlasts bytes first second)
    (still : second.cursor = first.cursor) : Toured handed second := by
  obtain ⟨readable, inside, behind, all, reads⟩ := toured
  obtain ⟨more, grown, visits⟩ := outlasts.visits
  obtain ⟨ahead, within⟩ := Cursor.ahead_of_prefix inside grown
  have among : ∀ visit ∈ behind, visit ∈ first.visits := by
    intro visit member
    rw [all]
    exact List.mem_append_left _ member
  constructor
  · exact outlasts.readable
  · rw [still]
    exact within
  · refine ⟨behind, ?_, ?_⟩
    · rw [still, ahead, visits, all, List.append_assoc]
    · rw [outlasts.entries readable among, reads]

/-- Once visits were handed out, the cursor is behind them. -/
theorem Toured.moved (toured : Toured handed batch) {front : List Visit} {cursor : Cursor}
    {entries : List Entry} (inside : cursor.Inside batch.replies)
    (ahead : batch.cursor.ahead batch.replies = front ++ cursor.ahead batch.replies)
    (reads : front.mapM batch.entry = .ok entries) :
    Toured (handed ++ entries) { batch with cursor := cursor } := by
  obtain ⟨readable, _, behind, all, before⟩ := toured
  constructor
  · exact ⟨readable.inside, readable.ranges, readable.texts⟩
  · exact inside
  · refine ⟨behind ++ front, ?_, entries_append before reads⟩
    rw [List.append_assoc, ← ahead]
    exact all

theorem Toured.among (toured : Toured handed batch) :
    ∀ visit ∈ batch.cursor.ahead batch.replies, visit ∈ batch.visits := by
  obtain ⟨_, _, behind, all, _⟩ := toured
  intro visit member
  rw [all]
  exact List.mem_append_right _ member

/-- Asking for the next reply gives the first visit ahead, or nothing just when none is ahead. -/
theorem Toured.nextReply (toured : Toured handed batch) (memory : MemoryStats) :
    ∃ entry after, Batch.nextReply ⟨batch, memory⟩ = .ok entry after ∧
      Toured (handed ++ entry.toList) after.item ∧
      ∃ rest, (batch.cursor.ahead batch.replies).mapM batch.entry = .ok rest ∧
        entry = rest.head? := by
  have among := toured.among
  have step := Cursor.advance_ahead toured.inside
  unfold Batch.nextReply
  dsimp only
  cases moved : batch.cursor.advance batch.replies with
  | none =>
      rw [moved] at step
      refine ⟨none, _, rfl, ?_, [], ?_, rfl⟩
      · rw [Option.toList_none, List.append_nil]
        exact toured
      · rw [step]
        rfl
  | some place =>
      obtain ⟨visit, cursor⟩ := place
      rw [moved] at step
      obtain ⟨ahead, inside⟩ := step
      rw [ahead] at among
      obtain ⟨entry, reads⟩ := toured.readable.entry (among visit List.mem_cons_self)
      obtain ⟨rest, others⟩ := toured.readable.entries fun other member =>
        among other (List.mem_cons_of_mem _ member)
      have single : [visit].mapM batch.entry = .ok [entry] := by
        rw [List.mapM_cons, reads]
        rfl
      dsimp only
      rw [reads]
      refine ⟨some entry, _, rfl, ?_, entry :: rest, ?_, rfl⟩
      · exact toured.moved inside ahead single
      · rw [ahead, List.mapM_cons, reads, others]
        rfl

theorem Toured.drain (toured : Toured handed batch) (memory : MemoryStats) :
    ∃ entries after, Batch.drain ⟨batch, memory⟩ = .ok entries after ∧
      Toured (handed ++ entries) after.item := by
  obtain ⟨visits, ends, inside⟩ := Cursor.walk_ahead toured.inside
  obtain ⟨entries, reads⟩ := toured.readable.entries toured.among
  unfold Batch.drain
  dsimp only
  rw [visits, reads]
  refine ⟨entries, _, rfl, toured.moved inside ?_ reads⟩
  rw [ends, List.append_nil]

/-! ### Tours -/

def Answer.entries : Answer → List Entry
  | .visited entry => entry.toList
  | .listed entries => entries
  | _ => []

def Use.hands (state : Metered Batch) (use : Use) : List Entry :=
  match use.operation state with
  | .ok answer _ => answer.entries
  | .error _ _ => []

/-- What becomes of a batch by uses and by rounds that it takes part in, in any order, with the
entries that it hands out on the way. The counters of its engine may be anything. -/
inductive Tour {Net Sock : Type} (transport : Transport Net Sock) (start : Batch) :
    List Entry → Batch → Prop where
  | rests : Tour transport start [] start
  | used {handed : List Entry} {batch : Batch} (tour : Tour transport start handed batch)
      (memory : MemoryStats) (use : Use) (proper : use.Proper batch) :
      Tour transport start (handed ++ use.hands ⟨batch, memory⟩)
        (use.operation.leaves ⟨batch, memory⟩).item
  | served {handed : List Entry} {batch : Batch} (tour : Tour transport start handed batch)
      {engine : Engine} {network : Net} {pairs : List (Pair Sock)} {timeout : Duration}
      {ordinal : Nat}
      {connection : Connection Sock} {after : Pair Sock}
      (added : (Round.enlist engine network pairs).pairs[ordinal]? = some ⟨connection, batch⟩)
      (ended : ((Round.enlist engine network pairs).execute transport timeout).2.pairs[ordinal]? =
        some after) :
      Tour transport start handed after.batch

theorem Still.use {α : Type} {operation : Operation α} (still : Still operation)
    (value : α → Answer) (nothing : ∀ result, (value result).entries = [])
    (state : Metered Batch) :
    (match (value <$> operation) state with
      | .ok answer _ => answer.entries
      | .error _ _ => []) = [] ∧
      ((value <$> operation).leaves state).item.cursor = state.item.cursor := by
  rw [leaves_map]
  refine ⟨?_, still state⟩
  simp only [Functor.map, EStateM.map]
  cases operation state with
  | ok result after => exact nothing result
  | error failure after => rfl

/-- Only the two uses that ask for replies hand any out, and only they move the cursor. -/
theorem Use.still {use : Use} (next : use ≠ .next) (drain : use ≠ .drain) (state : Metered Batch) :
    use.hands state = [] ∧ (use.operation.leaves state).item.cursor = state.item.cursor := by
  cases use with
  | write bytes commands => exact (still_write bytes commands).use _ (fun _ => rfl) state
  | command arguments => exact (still_writeCommand arguments).use _ (fun _ => rfl) state
  | decimal value => exact (still_write _ 0).use _ (fun _ => rfl) state
  | start => exact ⟨rfl, still_startSending state.item⟩
  | send answer => exact (still_sendOnce answer).use _ (fun _ => rfl) state
  | receive answer => exact (still_receiveOnce answer).use _ (fun _ => rfl) state
  | store bytes => exact (still_onReadBuffer _).use _ (fun _ => rfl) state
  | push reply => exact (still_pushReply reply).use _ (fun _ => rfl) state
  | abort text => exact (still_abort text).use _ (fun _ => rfl) state
  | next => exact absurd rfl next
  | drain => exact absurd rfl drain

theorem Toured.used (toured : Toured handed batch) {use : Use} (proper : use.Proper batch)
    (memory : MemoryStats) :
    Toured (handed ++ use.hands ⟨batch, memory⟩) (use.operation.leaves ⟨batch, memory⟩).item := by
  by_cases next : use = .next
  · obtain ⟨entry, after, asked, later, _⟩ := toured.nextReply memory
    subst next
    unfold Use.hands Attempt.leaves
    simp only [Use.operation, Functor.map, EStateM.map, asked]
    exact later
  by_cases drain : use = .drain
  · obtain ⟨entries, after, asked, later⟩ := toured.drain memory
    subst drain
    unfold Use.hands Attempt.leaves
    simp only [Use.operation, Functor.map, EStateM.map, asked]
    exact later
  obtain ⟨nothing, still⟩ := Use.still next drain ⟨batch, memory⟩
  have changes := @Use.changes admitsFound ⟨batch, memory⟩ use proper.admitted
  rw [nothing, List.append_nil]
  exact toured.outlasts (changes.outlasts toured.readable) still

variable {Net Sock : Type} {transport : Transport Net Sock}

theorem Toured.served (toured : Toured handed batch) {engine : Engine} {network : Net}
    {pairs : List (Pair Sock)} {timeout : Duration} {ordinal : Nat} {connection : Connection Sock}
    {after : Pair Sock}
    (added : (Round.enlist engine network pairs).pairs[ordinal]? = some ⟨connection, batch⟩)
    (ended : ((Round.enlist engine network pairs).execute transport timeout).2.pairs[ordinal]? =
      some after) : Toured handed after.batch := by
  cases busy : batch.hasPending with
  | true =>
      obtain ⟨last, there, served⟩ := Round.execute_served transport timeout added busy
      rw [there] at ended
      cases ended
      have entered : (Pair.prepared ⟨connection, batch⟩).batch.cursor = batch.cursor :=
        still_startSending batch
      exact toured.outlasts (served_outlasts toured.readable served).1
        (served.cursor.trans entered)
  | false =>
      rw [Round.execute_idle transport timeout added busy] at ended
      cases ended
      exact toured

theorem Tour.toured {start : Batch} {before : List Entry} (toured : Toured before start)
    (tour : Tour transport start handed batch) : Toured (before ++ handed) batch := by
  induction tour with
  | rests =>
      rw [List.append_nil]
      exact toured
  | used tour memory use proper ih =>
      rw [← List.append_assoc]
      exact ih.used proper memory
  | served tour added ended ih => exact ih.served added ended

theorem Tour.course {start : Batch} (tour : Tour transport start handed batch) :
    ∃ received, Course transport start received batch := by
  induction tour with
  | rests => exact ⟨_, .rests⟩
  | used tour memory use proper ih =>
      obtain ⟨received, course⟩ := ih
      exact ⟨_, course.used memory use proper⟩
  | served tour added ended ih =>
      obtain ⟨received, course⟩ := ih
      exact ⟨_, course.served added ended⟩

theorem toured_of_started {start : Metered Batch} (started : Started start) :
    Toured [] start.item := by
  have fresh : ∀ {batch : Batch}, batch.Readable → batch.replies = #[] → batch.cursor = {} →
      Toured [] batch := by
    intro batch readable none cursor
    constructor
    · exact readable
    · rw [cursor]
      exact Cursor.inside_new _
    · refine ⟨[], ?_, rfl⟩
      rw [cursor]
      exact (Cursor.ahead_new batch.replies).symm
  have readable := started.readable.1
  cases started with
  | made config memory => exact fresh readable rfl rfl
  | emptied used => exact fresh readable rfl rfl

/-- Listing the replies visits all of them, wherever the cursor stands. -/
theorem entries_eq (batch : Batch) : batch.entries = batch.visits.mapM batch.entry := by
  unfold entries
  rw [(Cursor.walk_ahead (Cursor.inside_new batch.replies)).1, Cursor.ahead_new]
  rfl

/-- A batch hands out every reply once, in order, also while more replies arrive. From when it was
made or emptied, whatever is done with it in and between rounds, the entries that it has handed out
begin the list of all its replies with their elements, now and later; the next reply is the first
one of the list that was not handed out, and there is none just when the whole list was. Listing all
replies gives the whole list at any moment, and what is handed out later goes on as before. -/
theorem nextReply_in_order {start : Metered Batch} (started : Started start)
    {handed more : List Entry} {before after : Batch}
    (tour : Tour transport start.item handed before)
    (later : Tour transport before more after) :
    ∃ present final : List Entry,
      before.visits.mapM before.entry = .ok present ∧ before.entries = .ok present ∧
      after.visits.mapM after.entry = .ok final ∧ present <+: final ∧
      handed <+: present ∧ handed ++ more <+: final ∧
      (present[handed.length]? = none ↔ handed = present) ∧
      ∀ memory, ∃ next, nextReply ⟨before, memory⟩ = .ok present[handed.length]? next := by
  have first := tour.toured (toured_of_started started)
  have second := later.toured first
  rw [List.nil_append] at first second
  obtain ⟨received, course⟩ := later.course
  have outlasts := course.outlasts first.readable
  obtain ⟨readable, inside, behind, all, reads⟩ := id first
  obtain ⟨rest, ahead⟩ := readable.entries first.among
  have present := entries_append reads ahead
  rw [← all] at present
  obtain ⟨_, _, behind', all', reads'⟩ := id second
  obtain ⟨rest', ahead'⟩ := second.readable.entries second.among
  have final := entries_append reads' ahead'
  rw [← all'] at final
  refine ⟨handed ++ rest, handed ++ more ++ rest', present, ?_, final, ?_, ?_, ?_, ?_, ?_⟩
  · rw [entries_eq, present]
  · obtain ⟨grown, _, visits⟩ := outlasts.visits
    have among : ∀ visit ∈ grown.flatMap Reply.visits, visit ∈ after.visits := by
      intro visit member
      rw [visits]
      exact List.mem_append_right _ member
    obtain ⟨added, reads''⟩ := second.readable.entries among
    have kept := outlasts.entries readable fun visit member => member
    have whole := entries_append (kept.trans present) reads''
    rw [← visits, final] at whole
    exact ⟨added, (Except.ok.inj whole).symm⟩
  · exact List.prefix_append _ _
  · exact List.prefix_append _ _
  · rw [List.getElem?_append_right (Nat.le_refl _), Nat.sub_self]
    cases rest with
    | nil => simp
    | cons entry rest => simp
  · intro memory
    obtain ⟨entry, next, asked, _, rest'', ahead'', same⟩ := first.nextReply memory
    rw [ahead] at ahead''
    cases ahead''
    refine ⟨next, ?_⟩
    rw [asked, same, List.getElem?_append_right (Nat.le_refl _), Nat.sub_self,
      List.head?_eq_getElem?]

theorem Tour.snoc {start : Metered Batch} {uses : List Use}
    (tour : Tour transport start.item handed (useAll uses start).item) (use : Use)
    (proper : use.Proper (useAll uses start).item) :
    Tour transport start.item (handed ++ use.hands (useAll uses start))
      (useAll (uses ++ [use]) start).item := by
  unfold useAll
  rw [List.foldl_append]
  exact tour.used (useAll uses start).memory use proper

/-- One of three commands is answered with an array, and half of the array was handed out. -/
def interrupted : Metered Batch :=
  useAll
    [.write ⟨#[43, 13, 10]⟩ 3,
      .store ⟨#[42, 50, 13, 10, 36, 49, 13, 10, 97, 13, 10, 36, 45, 49, 13, 10]⟩,
      .push (.multibulk 2 #[.bulk 8 1, .nil]), .next, .next]
    (allocate { readBufferSize := 1, writeBufferSize := 3 } {})

theorem interrupted_tour :
    ∃ handed : List Entry, handed.length = 2 ∧
      Tour Round.stranded (allocate { readBufferSize := 1, writeBufferSize := 3 } {}).item handed
        interrupted.item := by
  have begun : Tour Round.stranded
      (allocate { readBufferSize := 1, writeBufferSize := 3 } {}).item []
      (useAll [] (allocate { readBufferSize := 1, writeBufferSize := 3 } {})).item := .rests
  have stored := (begun.snoc (.write ⟨#[43, 13, 10]⟩ 3) trivial).snoc
    (.store ⟨#[42, 50, 13, 10, 36, 49, 13, 10, 97, 13, 10, 36, 45, 49, 13, 10]⟩) trivial
  have pushed := stored.snoc (.push (.multibulk 2 #[.bulk 8 1, .nil]))
    ⟨{}, _, .idle _, Prod.ext rfl (by decide +kernel)⟩
  have asked := (pushed.snoc .next trivial).snoc .next trivial
  exact ⟨_, by decide +kernel, asked⟩

theorem nextReply_in_order_interrupted :
    ∃ present final : List Entry,
      interrupted.item.entries = .ok present ∧ present <+: final ∧
      present.map (fun entry => (entry.depth, entry.kind)) =
        [(1, .multibulk), (2, .bulk), (2, .bulkNil)] ∧
      final.map (fun entry => (entry.depth, entry.kind)) =
        [(1, .multibulk), (2, .bulk), (2, .bulkNil), (1, .error), (1, .error)] ∧
      ∀ memory, ∃ next, nextReply ⟨interrupted.item, memory⟩ = .ok present[2]? next := by
  obtain ⟨handed, two, tour⟩ := interrupted_tour
  have begun : Tour Round.stranded interrupted.item [] (useAll [] interrupted).item := .rests
  have later := (begun.snoc (.abort "gone") trivial).snoc .next trivial
  obtain ⟨present, final, reads, lists, reads', grown, _, _, _, asks⟩ :=
    nextReply_in_order (.made _ _) tour later
  have kinds : ∀ {batch : Batch} {entries : List Entry} {kinds : List (Nat × ReplyKind)},
      batch.visits.mapM batch.entry = .ok entries →
      (batch.visits.mapM batch.entry).map (List.map fun entry => (entry.depth, entry.kind)) =
        .ok kinds → entries.map (fun entry => (entry.depth, entry.kind)) = kinds := by
    intro batch entries kinds reads computed
    rw [reads] at computed
    exact Except.ok.inj computed
  rw [two] at asks
  exact ⟨present, final, lists, grown, kinds reads (by decide +kernel),
    kinds reads' (by decide +kernel), asks⟩

end Batch

end Fanout
