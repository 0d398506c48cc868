import Fanout.Proofs.Headroom
import Fanout.Proofs.Session

/-!
The end of a stream. A source that is asked is always offered room, so it delivers nothing only at
its end, and a connection that reads tells the end of a stream from a buffer without room. It asks
only while replies are missing: an end behind the last of them is not noticed.
-/

set_option autoImplicit false

namespace Fanout

variable {Net Sock : Type} {transport : Transport Net Sock}

/-! ### One call -/

namespace Buffer

variable {σ : Type} {source : σ → Nat → ReceiveAnswer × σ} {peer : σ} {before : Metered Buffer}

/-- The source is asked with room behind the position, and says that its stream has ended. -/
def SaysEnd (source : σ → Nat → ReceiveAnswer × σ) (peer : σ) (before : Metered Buffer) : Prop :=
  ∃ ready later, Asks source peer before ready ∧
    source peer ready.item.remaining = (.delivers .empty, later)

/-- A call is refused before the source is asked, or the source is offered an eighth of the capacity
at the position, and a byte at least. So it takes nothing only if the stream has ended. -/
structure Discerns (source : σ → Nat → ReceiveAnswer × σ) (peer : σ) (before : Metered Buffer) :
    Prop where
  offers :
    receive source peer before =
        (.error (.io (.outOfMemory before.item.shortage)), before, peer) ∨
      ∃ ready, Asks source peer before ready ∧ ready.item.position = before.item.position ∧
        max 1 (before.item.capacity / 8) ≤ ready.item.remaining
  ends : (receive source peer before).1 = .ok 0 ↔ SaysEnd source peer before

theorem headroom_pos (buffer : Buffer) : 0 < buffer.headroom :=
  Nat.lt_of_lt_of_le Nat.one_pos (Nat.le_max_right _ _)

theorem Asks.position {ready : Metered Buffer} (asks : Asks source peer before ready) :
    ready.item.position = before.item.position := by
  cases asks.reserves <;> rfl

/-- Where there is room, only nothing is cut to nothing. -/
theorem empty_of_extract {bytes : ByteArray} {room : Nat} (positive : 0 < room)
    (nothing : (bytes.extract 0 room).size = 0) : bytes = .empty := by
  rw [ByteArray.size_extract] at nothing
  exact ByteArray.size_eq_zero_iff.mp (by omega)

theorem Asks.ends {ready : Metered Buffer} (asks : Asks source peer before ready) :
    (receive source peer before).1 = .ok 0 ↔
      ∃ later, source peer ready.item.remaining = (.delivers .empty, later) := by
  have positive := Nat.lt_of_lt_of_le (headroom_pos before.item) asks.offered
  constructor
  · intro nothing
    cases answers : source peer ready.item.remaining with
    | mk answer later =>
        cases answer with
        | fails error =>
            rw [asks.fails error later answers] at nothing
            cases nothing
        | delivers bytes =>
            obtain ⟨after, received, _⟩ := asks.delivers bytes later answers
            rw [received] at nothing
            rw [empty_of_extract positive (Except.ok.inj nothing)]
            exact ⟨later, rfl⟩
  · rintro ⟨later, answers⟩
    obtain ⟨after, received, _⟩ := asks.delivers .empty later answers
    rw [received, extract_all (Nat.zero_le _)]
    rfl

theorem Receptive.discerns (receptive : before.item.Receptive)
    (source : σ → Nat → ReceiveAnswer × σ) (peer : σ) : Discerns source peer before := by
  rcases receive_cases receptive source peer with refused | ⟨ready, asks⟩
  · refine ⟨.inl refused, ?_⟩
    rw [refused]
    refine ⟨nofun, ?_⟩
    rintro ⟨ready, later, asks, answers⟩
    have nothing := asks.ends.mpr ⟨later, answers⟩
    rw [refused] at nothing
    cases nothing
  · constructor
    · refine .inr ⟨ready, asks, asks.position, ?_⟩
      rw [Nat.max_comm]
      exact asks.offered
    · constructor
      · intro nothing
        obtain ⟨later, answers⟩ := asks.ends.mp nothing
        exact ⟨ready, later, asks, answers⟩
      · rintro ⟨ready, later, asks, answers⟩
        exact asks.ends.mpr ⟨later, answers⟩

theorem Holds.receptive {content : ByteArray} {buffer : Buffer} (holds : buffer.Holds content)
    (limited : buffer.Limited) : buffer.Receptive := by
  obtain ⟨_, writeMode, inside⟩ := holds
  refine ⟨⟨?_, Nat.le_of_eq writeMode⟩, limited, writeMode⟩
  rw [writeMode]
  exact inside

theorem Receptive.ensured {amount : Nat} {after : Metered Buffer}
    (receptive : before.item.Receptive) (ensured : ensureRemaining amount before = .ok () after) :
    after.item.Receptive :=
  (receptive.holds.ensured ensured).receptive (receptive.limited.ensured ensured)

theorem Receptive.store {buffer : Buffer} {bytes : ByteArray} (receptive : buffer.Receptive)
    (fits : buffer.Fits bytes) : (buffer.store bytes).Receptive :=
  (receptive.holds.store fits.room).receptive (receptive.limited.store fits)

end Buffer

theorem Batch.Change.receptive {admits : Buffer → Reply → Prop} {before after : Metered Batch}
    {bytes : ByteArray} (change : Change admits before bytes after)
    (receptive : before.item.readBuffer.Receptive) : after.item.readBuffer.Receptive := by
  cases change with
  | flipped =>
      unfold startSending
      split <;> exact receptive
  | receiveRoom ensured => exact @Buffer.Receptive.ensured (receiving before) _ _ receptive ensured
  | received bytes fits => exact receptive.store fits
  | _ => exact receptive

/-- Every batch can receive, whatever was done with it. -/
theorem Batch.standing_receptive (config : Config) :
    Standing config (fun batch => batch.readBuffer.Receptive)
      fun batch => batch.readBuffer.Receptive := by
  constructor
  · exact (Buffer.holds_new _ _).receptive (Buffer.limited_new _ _)
  · exact id
  · exact fun receptive change => change.receptive receptive
  · intro batch receptive memory
    exact (Buffer.holds_cleared _ _).receptive (receptive.limited.cleared _ _)

/-! ### Reading parsers -/

structure Abreast (parser : Parser) (buffer : Buffer) : Prop where
  sound : parser.Sound
  behind : parser.position ≤ buffer.filled.size
  receptive : buffer.Receptive

/-- Behind the bytes that were read to their end, what is appended is unread. -/
theorem Parser.unread_append {parser : Parser} {data : ByteArray}
    (ended : parser.position = data.size) (more : ByteArray) :
    parser.unread (data ++ more) = more.data.toList := by
  have whole : data.data.toList.length = data.size := Array.length_toList
  unfold unread
  rw [ended, ByteArray.data_append, Array.toList_append, List.drop_left' whole]

theorem follows_abreast : Follows unchecked Abreast where
  runs abreast := by
    have reaches := Parser.reaches_run abreast.sound abreast.behind
    exact ⟨reaches.sound abreast.sound, reaches.inside abreast.behind, abreast.receptive⟩
  admitted _ _ := trivial
  grows abreast ensured := by
    have filled := (abreast.receptive.holds.ensured ensured).filled
    refine ⟨abreast.sound, ?_, abreast.receptive.ensured ensured⟩
    rw [filled]
    exact abreast.behind
  stores abreast fits := by
    have filled := (abreast.receptive.holds.store fits.room).filled
    refine ⟨abreast.sound, ?_, abreast.receptive.store fits⟩
    rw [filled, ByteArray.size_append]
    exact Nat.le_trans abreast.behind (Nat.le_add_right _ _)

theorem Served.follows {admits : Buffer → Reply → Prop} {sound : Parser → Buffer → Prop}
    (follows : Follows admits sound) {entry pair : Pair Sock} {bytes : ByteArray}
    (holds : sound entry.connection.parser entry.batch.readBuffer)
    (served : Served transport entry bytes pair) :
    sound pair.connection.parser pair.batch.readBuffer := by
  induction served with
  | entered => exact holds
  | move served busy move ih => exact (move.changes follows ih).2

/-! ### Runs of reading -/

namespace Intake

/-- The socket is asked in a state that is come by when replies are taken, and the marked bytes
were received before in the same run. -/
inductive Calls (transport : Transport Net Sock) :
    Intake Sock → ByteArray → Intake Sock → Prop where
  | now {intake : Intake Sock} {parser : Parser} (busy : intake.batch.pending ≠ 0)
      (ran : intake.parser.run intake.batch.readBuffer.filled = (parser, .incomplete)) :
      Calls transport intake .empty { intake with parser := parser }
  | answered {intake state : Intake Sock} {parser : Parser} {reply : Reply}
      {received : ByteArray} (busy : intake.batch.pending ≠ 0)
      (ran : intake.parser.run intake.batch.readBuffer.filled = (parser, .complete reply))
      (later : Calls transport
        { intake with parser := parser, batch := intake.batch.answer reply } received state) :
      Calls transport intake received state
  | again {intake next state : Intake Sock} {parser : Parser} {result : Except Failure Nat}
      {received : ByteArray} (busy : intake.batch.pending ≠ 0)
      (ran : intake.parser.run intake.batch.readBuffer.filled = (parser, .incomplete))
      (got : receive transport { intake with parser := parser } = (result, next))
      (more : asksAgain result = true) (later : Calls transport next received state) :
      Calls transport intake
        (Buffer.delivered transport.receive intake.socket
          ⟨intake.batch.readBuffer, intake.memory⟩ ++ received) state

def reads (intake : Intake Sock) (bytes : ByteArray) : Reading :=
  intake.parser.read
    (intake.parser.unread intake.batch.readBuffer.filled ++ bytes.data.toList)

def Abreast (intake : Intake Sock) : Prop :=
  Fanout.Abreast intake.parser intake.batch.readBuffer

variable {intake next state : Intake Sock} {parser : Parser} {reply : Reply}
  {result : Except Failure Nat} {bytes : ByteArray}

/-! #### Steps -/

theorem Abreast.answered (abreast : intake.Abreast)
    (ran : intake.parser.run intake.batch.readBuffer.filled = (parser, .complete reply)) :
    Abreast { intake with parser := parser, batch := intake.batch.answer reply } := by
  have kept := follows_abreast.runs abreast
  rw [ran] at kept
  exact kept

theorem Abreast.incomplete (abreast : intake.Abreast)
    (ran : intake.parser.run intake.batch.readBuffer.filled = (parser, .incomplete)) :
    Abreast { intake with parser := parser } := by
  have kept := follows_abreast.runs abreast
  rw [ran] at kept
  exact kept

theorem Abreast.received (abreast : intake.Abreast)
    (ran : intake.parser.run intake.batch.readBuffer.filled = (parser, .incomplete))
    (got : receive transport { intake with parser := parser } = (result, next)) :
    next.Abreast :=
  (incomplete_changes follows_abreast abreast ran got).2

theorem reads_of_complete (abreast : intake.Abreast)
    (ran : intake.parser.run intake.batch.readBuffer.filled = (parser, .complete reply))
    (bytes : ByteArray) :
    intake.reads bytes =
      (reads { intake with parser := parser, batch := intake.batch.answer reply } bytes).cons
        reply := by
  have reaches := Parser.reaches_run abreast.sound abreast.behind
  rw [ran] at reaches
  obtain ⟨taken, unread, _, reads⟩ := reaches
  unfold Intake.reads
  rw [unread, List.append_assoc, Parser.read_append_of_fine reads]
  rfl

theorem reads_of_malformed {error : ParseError} (abreast : intake.Abreast)
    (ran : intake.parser.run intake.batch.readBuffer.filled = (parser, .malformed error))
    (bytes : ByteArray) : intake.reads bytes = ⟨parser, [], some error⟩ := by
  have reaches := Parser.reaches_run abreast.sound abreast.behind
  rw [ran] at reaches
  unfold reads
  rw [Parser.read_append, reaches.read_eq nofun]
  rfl

/-- A parser that has come to the end of what was received goes on with what comes behind it. -/
theorem reads_of_incomplete (abreast : intake.Abreast)
    (ran : intake.parser.run intake.batch.readBuffer.filled = (parser, .incomplete))
    (bytes : ByteArray) : intake.reads bytes = parser.read bytes.data.toList := by
  have reaches := Parser.reaches_run abreast.sound abreast.behind
  have ended := Parser.position_of_incomplete abreast.sound abreast.behind ran
  rw [ran] at reaches
  unfold reads
  rw [Parser.read_append, reaches.read_eq fun _ => ended]
  rfl

theorem reads_of_received (abreast : intake.Abreast)
    (ran : intake.parser.run intake.batch.readBuffer.filled = (parser, .incomplete))
    (got : receive transport { intake with parser := parser } = (result, next))
    (bytes : ByteArray) :
    intake.reads (Buffer.delivered transport.receive intake.socket
        ⟨intake.batch.readBuffer, intake.memory⟩ ++ bytes) = next.reads bytes := by
  have ended := Parser.position_of_incomplete abreast.sound abreast.behind ran
  have inside := (abreast.incomplete ran).receptive.holds.inside
  obtain ⟨filled, _, _⟩ := receive_filled inside got
  rw [reads_of_incomplete abreast ran]
  unfold reads
  rw [filled, parser_receive got, Parser.unread_append ended, ByteArray.data_append,
    Array.toList_append]

theorem run_of_nothing (busy : intake.batch.pending ≠ 0)
    (ran : intake.parser.run intake.batch.readBuffer.filled = (parser, .incomplete))
    (nothing : (receive transport { intake with parser := parser }).1 = .ok 0) :
    (intake.run transport).1 = .failed .readEof := by
  rw [run_incomplete busy ran (Prod.ext nothing rfl)]
  rfl

/-! #### Runs -/

/-- A call comes when all that was received is read and replies are still missing. -/
theorem Calls.missing {received : ByteArray} (calls : Calls transport intake received state)
    (abreast : intake.Abreast) :
    state.Abreast ∧
      state.batch.readBuffer.filled = intake.batch.readBuffer.filled ++ received ∧
      state.batch.pending ≠ 0 ∧
      ∃ replies, intake.reads received = ⟨state.parser, replies, none⟩ ∧
        replies.length + state.batch.pending = intake.batch.pending := by
  induction calls with
  | @now intake parser busy ran =>
      refine ⟨abreast.incomplete ran, ByteArray.append_empty.symm, busy, [], ?_, Nat.zero_add _⟩
      rw [reads_of_incomplete abreast ran]
      rfl
  | @answered intake state parser reply received busy ran later ih =>
      obtain ⟨kept, filled, missing, replies, reads, total⟩ := ih (abreast.answered ran)
      refine ⟨kept, filled, missing, reply :: replies, ?_, ?_⟩
      · rw [reads_of_complete abreast ran, reads]
        rfl
      · have one := pending_answer busy reply
        dsimp only at total
        rw [List.length_cons]
        omega
  | @again intake next state parser result received busy ran got more later ih =>
      obtain ⟨kept, filled, missing, replies, reads, total⟩ := ih (abreast.received ran got)
      obtain ⟨filled', _, _⟩ := receive_filled (abreast.incomplete ran).receptive.holds.inside got
      have same := pending_receive got
      refine ⟨kept, ?_, missing, replies, ?_, total.trans same⟩
      · rw [filled, filled', ByteArray.append_assoc]
      · rw [reads_of_received abreast ran got, reads]

/-- A run fails because of the end of the stream just if one of its calls takes nothing. -/
theorem run_ends (transport : Transport Net Sock) (intake : Intake Sock) :
    (intake.run transport).1 = .failed .readEof ↔
      ∃ received state, Calls transport intake received state ∧
        (state.receive transport).1 = .ok 0 := by
  constructor
  · fun_induction run transport intake with
    | case1 intake done =>
        intro ended
        cases ended
    | case2 intake busy parser reply ran ih =>
        intro ended
        obtain ⟨received, state, calls, nothing⟩ := ih ended
        exact ⟨received, state, .answered busy ran calls, nothing⟩
    | case3 intake busy parser error ran =>
        intro ended
        cases ended
    | case4 intake busy parser ran next got =>
        exact fun _ => ⟨.empty, _, .now busy ran, congrArg Prod.fst got⟩
    | case5 intake busy parser ran count next got ih =>
        intro ended
        obtain ⟨received, state, calls, nothing⟩ := ih ended
        exact ⟨_, state, .again busy ran got rfl calls, nothing⟩
    | case6 intake busy parser ran next got =>
        intro ended
        cases ended
    | case7 intake busy parser ran next got ih =>
        intro ended
        obtain ⟨received, state, calls, nothing⟩ := ih ended
        exact ⟨_, state, .again busy ran got rfl calls, nothing⟩
    | case8 intake busy parser ran failure next _ _ got =>
        intro ended
        cases ended
  · rintro ⟨received, state, calls, nothing⟩
    induction calls with
    | now busy ran => exact run_of_nothing busy ran nothing
    | answered busy ran later ih =>
        rw [run_complete busy ran]
        exact ih nothing
    | again busy ran got more later ih =>
        rw [run_incomplete busy ran got, proceed_of_asksAgain more]
        exact ih nothing

/-- Nothing is delivered to a call that ends a run, so it brings no reply. -/
theorem reads_of_stops (abreast : intake.Abreast) (busy : intake.batch.pending ≠ 0)
    (ran : intake.parser.run intake.batch.readBuffer.filled = (parser, .incomplete))
    (got : receive transport { intake with parser := parser } = (result, next))
    (stops : asksAgain result = false) (nothing : result.toOption.getD 0 = 0) :
    (intake.reads (intake.heard transport)).replies = [] := by
  obtain ⟨_, _, size⟩ := receive_filled (abreast.incomplete ran).receptive.holds.inside got
  rw [nothing] at size
  have none := ByteArray.size_eq_zero_iff.mp size.symm
  dsimp only at none
  rw [heard_of_stops busy ran got stops, reads_of_incomplete abreast ran, none]
  rfl

/-- A run ends well just if the bytes that it receives bring all replies that are missing. -/
theorem run_answered (transport : Transport Net Sock) (abreast : intake.Abreast) :
    (intake.run transport).1 = .answered ↔
      intake.batch.pending ≤ (intake.reads (intake.heard transport)).replies.length := by
  have fails : ∀ {intake : Intake Sock} {replies : List Reply} {ended : IntakeEnd},
      intake.batch.pending ≠ 0 → replies = [] → ended ≠ .answered →
      (ended = .answered ↔ intake.batch.pending ≤ replies.length) := by
    rintro intake replies ended busy rfl other
    exact ⟨fun same => absurd same other, fun enough => absurd (Nat.le_zero.mp enough) busy⟩
  fun_induction run transport intake with
  | case1 intake done =>
      rw [done]
      exact ⟨fun _ => Nat.zero_le _, fun _ => rfl⟩
  | case2 intake busy parser reply ran ih =>
      have later := ih (abreast.answered ran)
      rw [heard, if_neg busy, ran]
      dsimp only
      rw [reads_of_complete abreast ran, ← pending_answer busy reply]
      exact later.trans Nat.succ_le_succ_iff.symm
  | case3 intake busy parser error ran =>
      rw [reads_of_malformed abreast ran]
      exact fails busy rfl (by simp)
  | case4 intake busy parser ran next got =>
      exact fails busy (reads_of_stops abreast busy ran got rfl rfl) (by simp)
  | case5 intake busy parser ran count next got ih =>
      rw [heard_of_asksAgain busy ran got rfl, reads_of_received abreast ran got,
        ← pending_receive got]
      exact ih (abreast.received ran got)
  | case6 intake busy parser ran next got =>
      exact fails busy (reads_of_stops abreast busy ran got rfl rfl) (by simp)
  | case7 intake busy parser ran next got ih =>
      rw [heard_of_asksAgain busy ran got rfl, reads_of_received abreast ran got,
        ← pending_receive got]
      exact ih (abreast.received ran got)
  | case8 intake busy parser ran failure next _ other got =>
      have stops := stops_of_failure other
      exact fails busy (reads_of_stops abreast busy ran got stops rfl) (by simp)

end Intake

/-! ### Turns -/

theorem append_ne {front rest whole : String} (place : Nat) (inside : place < front.toList.length)
    (differ : front.toList[place]? ≠ whole.toList[place]?) : front ++ rest ≠ whole := by
  rintro rfl
  rw [String.toList_append, List.getElem?_append_left inside] at differ
  exact differ rfl

theorem AbortCause.detail_readEof (cause : AbortCause) :
    cause.detail = "read eof" ↔ cause = .readEof := by
  constructor
  · intro same
    cases cause with
    | readEof => rfl
    | eventRefused error => exact absurd same (append_ne 0 (by decide) (by decide))
    | connectFailed error => exact absurd same (append_ne 0 (by decide) (by decide))
    | writeFailed error => exact absurd same (append_ne 0 (by decide) (by decide))
    | readFailed failure => exact absurd same (append_ne 6 (by decide) (by decide))
    | _ => exact absurd same (by decide)
  · rintro rfl
    rfl

namespace Turn

variable {turn : Turn Net Sock} {socket : Sock}

/-- A turn that reads tells the end of a stream from a full buffer. The socket is asked only while
the bytes that were received before do not bring all replies that are missing; the turn gives up
because of the end of the stream just if the socket said so; and it ends well, without giving up,
just if all replies come with the bytes that it receives. -/
structure Discerns (transport : Transport Net Sock) (turn : Turn Net Sock) (socket : Sock) :
    Prop where
  calls : ∀ received state, Intake.Calls transport (turn.intake socket) received state →
    state.batch.readBuffer.filled = turn.batch.readBuffer.filled ++ received ∧
      ((turn.intake socket).reads received).replies.length < turn.batch.pending ∧
      Buffer.Discerns transport.receive state.socket ⟨state.batch.readBuffer, state.memory⟩
  ends :
    (∃ cause, ((turn.intake socket).run transport).1 = .failed cause ∧
        cause.detail = "read eof") ↔
      ∃ received state, Intake.Calls transport (turn.intake socket) received state ∧
        Buffer.SaysEnd transport.receive state.socket ⟨state.batch.readBuffer, state.memory⟩
  answers : ((turn.intake socket).run transport).1 = .answered ↔
    turn.batch.pending ≤
      ((turn.intake socket).reads ((turn.intake socket).heard transport)).replies.length
  answered : ((turn.intake socket).run transport).1 = .answered →
    turn.readData transport = turn.withIntake ((turn.intake socket).run transport).2 ∧
      (turn.readData transport).connection.link.isAborted = false ∧
      (turn.readData transport).batch.abortText = turn.batch.abortText
  blocked : ((turn.intake socket).run transport).1 = .blocked →
    turn.readData transport =
      (turn.withIntake ((turn.intake socket).run transport).2).notify transport .reading
  failed : ∀ cause, ((turn.intake socket).run transport).1 = .failed cause →
    turn.readData transport =
      (turn.withIntake ((turn.intake socket).run transport).2).abort transport cause

theorem discerns (transport : Transport Net Sock)
    (connected : turn.connection.link = .connected socket)
    (abreast : (turn.intake socket).Abreast) : turn.Discerns transport socket := by
  have reads := readData_connected transport connected
  have tells : ∀ {received state}, Intake.Calls transport (turn.intake socket) received state →
      Buffer.Discerns transport.receive state.socket
        ⟨state.batch.readBuffer, state.memory⟩ := by
    intro received state calls
    have receptive := (calls.missing abreast).1.receptive
    exact @Buffer.Receptive.discerns _ ⟨state.batch.readBuffer, state.memory⟩ receptive _ _
  constructor
  case calls =>
    intro received state calls
    obtain ⟨_, filled, missing, replies, same, total⟩ := calls.missing abreast
    refine ⟨filled, ?_, tells calls⟩
    rw [same]
    change replies.length < (turn.intake socket).batch.pending
    omega
  case ends =>
    constructor
    · rintro ⟨cause, ended, detail⟩
      rw [cause.detail_readEof.mp detail] at ended
      obtain ⟨received, state, calls, nothing⟩ := (Intake.run_ends transport _).mp ended
      exact ⟨received, state, calls, (tells calls).ends.mp nothing⟩
    · rintro ⟨received, state, calls, told⟩
      have nothing := (tells calls).ends.mpr told
      exact ⟨.readEof, (Intake.run_ends transport _).mpr ⟨received, state, calls, nothing⟩, rfl⟩
  case answers => exact Intake.run_answered transport abreast
  case answered =>
    intro ended
    rw [ended] at reads
    rw [reads]
    exact ⟨rfl, rfl, (Intake.run_keeps transport (turn.intake socket)).abortText⟩
  case blocked =>
    intro ended
    rw [ended] at reads
    exact reads
  case failed =>
    intro cause ended
    rw [ended] at reads
    exact reads

end Turn

namespace Session

/-- The end of a stream is not confused with a full buffer. However a buffer was used, once it is in
write mode a call that takes nothing has offered its source a byte at least and was told that the
stream has ended. Every batch of a session receives into such a buffer, so whichever connection
serves it and however far, when that reads it gives up with "read eof" just if the socket said so,
and it never asks once all replies that are missing were received. -/
theorem reading_discerns (transport : Transport Net Sock) (config : Config)
    (acts : List (Act Net Sock)) :
    (∀ {size ceiling : Nat} {before : Metered Buffer}, Buffer.Used size ceiling before →
        before.item.limit = before.item.capacity →
        ∀ {σ : Type} (source : σ → Nat → ReceiveAnswer × σ) (peer : σ),
          Buffer.Discerns source peer before) ∧
      (∀ cause : AbortCause, cause.detail = "read eof" ↔ cause = .readEof) ∧
      ∀ batch ∈ (run transport config acts).held,
        ∀ (connection : Connection Sock) (bytes : ByteArray) (turn : Turn Net Sock) (socket : Sock),
          Served transport (Pair.prepared ⟨connection, batch⟩) bytes turn.pair →
          turn.connection.link = .connected socket → turn.Discerns transport socket := by
  refine ⟨?_, AbortCause.detail_readEof, ?_⟩
  · intro size ceiling before used writeMode σ source peer
    exact (used.inOrder.receptive writeMode).discerns source peer
  · intro batch among connection bytes turn socket served connected
    have every := @Moment.every _ _ transport config _ _ (Batch.standing_receptive config)
      (.between acts)
    have receptive : batch.readBuffer.Receptive := every.held batch among
    rw [← (Pair.prepared_batch ⟨connection, batch⟩).1] at receptive
    have entered : Abreast {} (Pair.prepared ⟨connection, batch⟩).batch.readBuffer :=
      ⟨Parser.sound_new, Nat.zero_le _, receptive⟩
    exact Turn.discerns transport connected (served.follows follows_abreast entered)

def closing : Transport Unit (List ByteArray) where
  dial := fun network _ => (.unresolved, network)
  shake := fun socket => (.inProgress, socket)
  send := fun socket _ => (.fails .wouldBlock, socket)
  receive := fun socket _ =>
    match socket with
    | [] => (.delivers .empty, [])
    | piece :: pieces => (.delivers piece, pieces)
  watch := .answering none
  deregister := fun network _ => (none, network)
  hangUp := fun network _ => network
  poll := fun network _ _ => (.interrupted, 0, network)
  patience := fun _ => 0
  send_interrupted := nofun
  receive_interrupted := by
    intro socket room later failed
    cases socket <;> cases failed

def opened (socket : List ByteArray) : Connection (List ByteArray) :=
  ⟨⟨"nowhere", 6379⟩, .connected socket, {}, 255⟩

def facing (batch : Batch) (socket : List ByteArray) : Turn Unit (List ByteArray) :=
  ⟨(), {}, {}, 0, opened socket, batch.startSending, none⟩

def modest : Config := { readBufferSize := 16, writeBufferSize := 16 }

def asking : Batch :=
  ((Batch.Use.write ⟨#[80, 73, 78, 71, 13, 10]⟩ 1).operation.leaves
    (Batch.allocate modest {})).item

def pong : ByteArray := ⟨#[43, 80, 79, 78, 71, 13, 10]⟩

/-- The end of the stream is not noticed behind the reply, and noticed without it. -/
theorem reading_discerns_closing :
    asking ∈
        (run closing modest [.make, .use 0 (.write ⟨#[80, 73, 78, 71, 13, 10]⟩ 1)]).held ∧
      ((facing asking [pong]).readData closing).connection.link.isAborted = false ∧
      ∃ received state, Intake.Calls closing ((facing asking []).intake []) received state ∧
        Buffer.SaysEnd closing.receive state.socket ⟨state.batch.readBuffer, state.memory⟩ := by
  have among : asking ∈
      (run closing modest [.make, .use 0 (.write ⟨#[80, 73, 78, 71, 13, 10]⟩ 1)]).held :=
    List.mem_singleton_self _
  obtain ⟨_, _, discerns⟩ := reading_discerns closing modest
    [.make, .use 0 (.write ⟨#[80, 73, 78, 71, 13, 10]⟩ 1)]
  have quiet : Parser.run {} asking.readBuffer.filled = ({}, .incomplete) := by decide +kernel
  refine ⟨among, ?_, ?_⟩
  · have whole := discerns _ among (opened [pong]) .empty (facing asking _) _ .entered rfl
    have found : Parser.run {} pong = (⟨7, .start, 1, 0, none⟩, .complete (.line .ok 1 4)) := by
      decide +kernel
    have arrived : ((facing asking [pong]).intake [pong]).run closing =
        (Intake.receive closing ((facing asking [pong]).intake [pong])).2.run closing :=
      (Intake.run_incomplete (by decide) quiet rfl).trans (Intake.proceed_of_asksAgain rfl)
    have ended : (((facing asking [pong]).intake [pong]).run closing).1 = .answered := by
      rw [arrived, Intake.run_complete (by decide) found, Intake.run_done rfl]
    exact (whole.answered ended).2.1
  · have none := discerns _ among (opened []) .empty (facing asking _) _ .entered rfl
    have ended : (((facing asking []).intake []).run closing).1 = .failed .readEof :=
      Intake.run_of_nothing (by decide) quiet rfl
    exact none.ends.mp ⟨.readEof, ended, rfl⟩

end Session

end Fanout
