import Fanout.Proofs.Deadline
import Fanout.Proofs.Lasting
import Fanout.Proofs.Session
import Fanout.Proofs.Truncating

/-!
The texts of errors. An error is described in full and then cut to the largest length that the
engine allows; the text stays where it was put, in a batch together with the replies that stand for
it, in the engine until the next error.
-/

set_option autoImplicit false

namespace Fanout

variable {Net Sock : Type} {transport : Transport Net Sock}

/-! ### The text of an aborted batch -/

structure Pair.Told (entry pair : Pair Sock) : Prop where
  endpoint : pair.connection.endpoint = entry.connection.endpoint
  largest : pair.connection.maxErrorLength = entry.connection.maxErrorLength
  text : pair.batch.abortText = entry.batch.abortText ∨
    entry.batch.abortText = none ∧ ∃ (cause : AbortCause) (text : String),
      pair.batch.abortText = some text ∧
        Text.LongestFit (cause.message entry.connection.endpoint)
          entry.connection.maxErrorLength text

namespace Pair

variable {entry middle pair : Pair Sock}

theorem Told.refl (pair : Pair Sock) : pair.Told pair := ⟨rfl, rfl, .inl rfl⟩

theorem Told.trans (first : entry.Told middle) (second : middle.Told pair) : entry.Told pair := by
  refine ⟨second.endpoint.trans first.endpoint, second.largest.trans first.largest, ?_⟩
  rcases second.text with same | ⟨plain, cause, text, told, fit⟩
  · rw [same]
    exact first.text
  · rcases first.text with same | ⟨_, _, _, already, _⟩
    · rw [first.endpoint, first.largest] at fit
      exact .inr ⟨same.symm.trans plain, cause, text, told, fit⟩
    · rw [plain] at already
      cases already

theorem told_prepared (pair : Pair Sock) : pair.Told pair.prepared :=
  ⟨rfl, rfl, .inl pair.prepared_batch.2.2.2⟩

end Pair

namespace Turn

variable {turn before after : Turn Net Sock} {bytes : ByteArray}

theorem abort_told (transport : Transport Net Sock) (turn : Turn Net Sock) (cause : AbortCause) :
    turn.pair.Told (turn.abort transport cause).pair := by
  cases gone : turn.connection.link.isAborted with
  | true =>
      rw [abort_of_aborted gone]
      exact .refl _
  | false =>
      have connection := abort_connection transport gone cause
      have batch := @abort_batch _ _ transport _ gone cause
      unfold pair
      rw [connection, batch]
      refine ⟨rfl, rfl, ?_⟩
      cases aborted : turn.batch.isAborted with
      | true => exact .inl rfl
      | false =>
          have plain := Batch.abortText_of_unaborted aborted
          exact .inr ⟨plain, cause, _, rfl, Text.truncate_longestFit _ _⟩

theorem received_told {socket : Sock} {ended : IntakeEnd} {intake : Intake Sock}
    (runs : (before.intake socket).run transport = (ended, intake)) :
    before.pair.Told (before.withIntake intake).pair := by
  have keeps := Intake.run_keeps transport (before.intake socket)
  rw [runs] at keeps
  exact ⟨rfl, rfl, .inl keeps.abortText⟩

theorem Move.told (move : Move transport before bytes after) : before.pair.Told after.pair := by
  cases move with
  | @unreachable dialing network cause closed dials =>
      exact abort_told transport { before with network := network } cause
  | opened closed dials => exact ⟨rfl, rfl, .inl rfl⟩
  | shaken connecting shakes => exact ⟨rfl, rfl, .inl rfl⟩
  | established connecting shakes => exact ⟨rfl, rfl, .inl rfl⟩
  | asked known asks => exact ⟨rfl, rfl, .inl rfl⟩
  | sent connected sends => exact ⟨rfl, rfl, .inl rfl⟩
  | received connected runs fine => exact received_told runs
  | lost connected runs => exact (received_told runs).trans (abort_told transport _ _)
  | gaveUp alive => exact abort_told transport before _
  | broke known asks => exact ⟨rfl, rfl, .inl rfl⟩

end Turn

theorem Served.told {entry pair : Pair Sock} {bytes : ByteArray}
    (served : Served transport entry bytes pair) : entry.Told pair := by
  induction served with
  | entered => exact .refl entry
  | move served busy move ih => exact ih.trans move.told

/-! ### Moments of a pair -/

/-- At each moment of a round a pair is as it entered, or has been served. -/
theorem Round.stage_served (transport : Transport Net Sock) {round : Round Net Sock}
    {ordinal : Nat} {entry : Pair Sock} (present : round.pairs[ordinal]? = some entry)
    (timeout : Duration) (count : Nat) :
    ∃ pair, (round.stage transport timeout count).pairs[ordinal]? = some pair ∧
      (pair = entry ∨ ∃ bytes, Served transport entry.prepared bytes pair) := by
  cases busy : entry.batch.hasPending with
  | false => exact ⟨entry, stage_idle transport timeout present busy count, .inl rfl⟩
  | true =>
      rcases Nat.lt_or_ge ordinal count with done | early
      · have inside := (List.getElem?_eq_some_iff.mp present).1
        obtain ⟨begun, there, served⟩ :=
          @startAll_begins _ _ transport _ _ inside entry present busy
        obtain ⟨pair, ends, served⟩ := replay_served
          ((round.steps transport timeout).take (count - round.pairs.length)) there served
        rw [stage_pairs transport timeout done inside]
        exact ⟨pair, ends, .inr ⟨_, served⟩⟩
      · exact ⟨entry, stage_before transport timeout present early, .inl rfl⟩

def Pair.Becomes (transport : Transport Net Sock) (entry pair : Pair Sock) : Prop :=
  ∃ (engine : Engine) (network : Net) (pairs : List (Pair Sock)) (timeout : Duration)
    (count ordinal : Nat),
    (Round.enlist engine network pairs).pairs[ordinal]? = some entry ∧
      ((Round.enlist engine network pairs).stage transport timeout count).pairs[ordinal]? =
        some pair

theorem Pair.Becomes.served {entry pair : Pair Sock} (becomes : entry.Becomes transport pair) :
    pair = entry ∨ ∃ bytes, Served transport entry.prepared bytes pair := by
  obtain ⟨engine, network, pairs, timeout, count, ordinal, entered, there⟩ := becomes
  obtain ⟨other, same, served⟩ := Round.stage_served transport entered timeout count
  rw [there] at same
  cases same
  exact served

theorem Pair.Becomes.told {entry pair : Pair Sock} (becomes : entry.Becomes transport pair) :
    entry.Told pair := by
  rcases becomes.served with rfl | ⟨_, served⟩
  · exact .refl _
  · exact entry.told_prepared.trans served.told

theorem Engine.connection_of_named {engine : Engine} {address : String} {endpoint : Endpoint}
    (named : Endpoint.parse address engine.config.defaultPort = .ok endpoint) :
    (engine.connection address : Except InvalidAddress (Connection Sock) × Engine).1 =
      .ok (Connection.new endpoint engine.config.maxErrorLength) := by
  unfold Engine.connection
  rw [named]

/-- A connection that an engine with these settings made for an endpoint, at any later time. -/
inductive Connection.Opened (transport : Transport Net Sock) (config : Config)
    (endpoint : Endpoint) : Connection Sock → Prop where
  | made {engine : Engine} {address : String} {connection : Connection Sock}
      (settings : engine.config = config)
      (named : Endpoint.parse address config.defaultPort = .ok endpoint)
      (opened : (engine.connection address).1 = .ok connection) :
      Opened transport config endpoint connection
  | closed {connection : Connection Sock} (opened : Opened transport config endpoint connection)
      (network : Net) : Opened transport config endpoint (connection.close transport network).1
  | served {entry pair : Pair Sock} (opened : Opened transport config endpoint entry.connection)
      (becomes : entry.Becomes transport pair) :
      Opened transport config endpoint pair.connection

theorem Connection.Opened.settings {config : Config} {endpoint : Endpoint}
    {connection : Connection Sock} (opened : connection.Opened transport config endpoint) :
    connection.endpoint = endpoint ∧ connection.maxErrorLength = config.maxErrorLength := by
  induction opened with
  | made settings named opened =>
      obtain rfl := settings
      rw [Engine.connection_of_named named] at opened
      cases opened
      exact ⟨rfl, rfl⟩
  | closed opened network ih => exact ih
  | served opened becomes ih =>
      have told := becomes.told
      exact ⟨told.endpoint.trans ih.1, told.largest.trans ih.2⟩

/-! ### Replies that stand for the text -/

namespace Batch

/-- Every error reply of an abort is as long as the text of the abort, and is read as that text. -/
def Echoes (batch : Batch) : Prop :=
  ∀ reply ∈ batch.replies.toList, reply.source = .abortText →
    ∃ text bytes, batch.abortText = some text ∧ reply.length = text.utf8ByteSize ∧
      batch.replyData reply = .ok (some bytes) ∧ String.fromUTF8? bytes = some text

variable {batch : Batch}

theorem Readable.echoes (readable : batch.Readable) : batch.Echoes := by
  intro reply among aborted
  obtain ⟨text, known, rfl⟩ := readable.texts reply among aborted
  refine ⟨text, text.toUTF8, known, rfl, replyData_aborted known, ?_⟩
  exact dif_pos text.isValidUTF8

theorem Readable.becomes (readable : batch.Readable) {connection : Connection Sock}
    {pair : Pair Sock} (becomes : Pair.Becomes transport ⟨connection, batch⟩ pair) :
    pair.batch.Readable := by
  rcases becomes.served with rfl | ⟨_, served⟩
  · exact readable
  · exact (served_outlasts readable served).1.readable

end Batch

/-! ### The latest error of an engine -/

namespace Engine

def reported (engine : Engine) (messages : List String) : Engine :=
  messages.foldl setLastError engine

variable {engine other : Engine} {messages : List String}

theorem reported_config (engine : Engine) (messages : List String) :
    (engine.reported messages).config = engine.config := by
  induction messages generalizing engine with
  | nil => rfl
  | cons message messages ih => exact ih (engine.setLastError message)

theorem reported_append (engine : Engine) (first second : List String) :
    engine.reported (first ++ second) = (engine.reported first).reported second := List.foldl_append

/-- The last message counts, cut to the largest length. -/
theorem reported_lastError (engine : Engine) (messages : List String) :
    (engine.reported messages).lastError =
      (messages.getLast?.map (Text.truncate · engine.config.maxErrorLength)).or
        engine.lastError := by
  induction messages using List.reverseRecOn with
  | nil => rfl
  | append_singleton messages message ih =>
      rw [reported_append, List.getLast?_concat, ← reported_config engine messages]
      rfl

theorem reported_congr (config : engine.config = other.config)
    (lastError : engine.lastError = other.lastError) (messages : List String) :
    (engine.reported messages).lastError = (other.reported messages).lastError := by
  rw [reported_lastError, reported_lastError, config, lastError]

end Engine

/-- What a round reports of its end. -/
def Outcome.report? : Outcome → Option String
  | .completed => none
  | .timedOut => some "Execute timeout"
  | .failed text => some text

namespace Round

variable {round : Round Net Sock}

theorem record_reported (round : Round Net Sock) (outcome : Outcome) :
    (round.record outcome).engine = round.engine.reported outcome.report?.toList := by
  cases outcome <;> rfl

/-- A round that ended has reported its end. -/
theorem execute_reported (transport : Transport Net Sock) (round : Round Net Sock)
    (timeout : Duration) :
    (round.execute transport timeout).2.engine.lastError =
      (round.engine.reported (round.execute transport timeout).1.report?.toList).lastError := by
  have config := ((startAll_evolves transport round).trans
    (replay_evolves transport _ (round.steps transport timeout))).config
  rw [execute_eq_replay, record_reported]
  exact Engine.reported_congr config (replay_lastError transport round _) _

/-- Every pair that finds no room is reported. -/
theorem enlist_reported (engine : Engine) (network : Net) (pairs : List (Pair Sock)) :
    (enlist engine network pairs).engine = engine.reported
      (List.replicate (pairs.length - engine.config.maxPairs)
        (RoundFull.message ⟨engine.config.maxPairs⟩)) := by
  have extended : ∀ round : Round Net Sock,
      (pairs.foldl (fun round pair => (round.add pair).2) round).engine =
        round.engine.reported (List.replicate
          (pairs.length - (round.engine.config.maxPairs - round.pairs.length))
          (RoundFull.message ⟨round.engine.config.maxPairs⟩)) := by
    induction pairs with
    | nil => intro round; simp [Engine.reported]
    | cons pair pairs ih =>
        intro round
        rw [List.foldl_cons, ih]
        by_cases full : round.engine.config.maxPairs ≤ round.pairs.length
        · have refused : (round.add pair).2 = { round with
              engine := round.engine.setLastError
                (RoundFull.message ⟨round.engine.config.maxPairs⟩) } := by
            unfold Round.add
            rw [if_pos full]
          have none : round.engine.config.maxPairs - round.pairs.length = 0 := by omega
          rw [refused]
          dsimp only [Engine.setLastError]
          rw [none, Nat.sub_zero, Nat.sub_zero, List.length_cons, List.replicate_succ]
          rfl
        · have added : (round.add pair).2.engine = round.engine ∧
              (round.add pair).2.pairs.length = round.pairs.length + 1 := by
            unfold Round.add
            rw [if_neg full]
            exact ⟨rfl, List.length_append⟩
          rw [added.1, added.2]
          have same : pairs.length - (round.engine.config.maxPairs - (round.pairs.length + 1)) =
              (pair :: pairs).length - (round.engine.config.maxPairs - round.pairs.length) := by
            rw [List.length_cons]
            omega
          rw [same]
  exact extended (Round.new engine network)

end Round

namespace Session

variable {session : Session} {config : Config}

def refusals (session : Session) (lent : List (Connection Sock × Nat)) : List String :=
  List.replicate ((lend session.held lent).1.length - session.engine.config.maxPairs)
    (RoundFull.message ⟨session.engine.config.maxPairs⟩)

/-- The errors that an act reports, in full. -/
def reports (transport : Transport Net Sock) (session : Session) : Act Net Sock → List String
  | .connect address =>
      match Endpoint.parse address session.engine.config.defaultPort with
      | .ok _ => []
      | .error error => [error.message]
  | .round lent network timeout =>
      session.refusals lent ++
        ((session.enter lent network).1.execute transport timeout).1.report?.toList
  | .noPoller _ error => [NoPoller.message ⟨error⟩]
  | _ => []

def allReports (transport : Transport Net Sock) (session : Session) :
    List (Act Net Sock) → List String
  | [] => []
  | act :: acts =>
      session.reports transport act ++ allReports transport (session.perform transport act) acts

/-- All errors up to a moment. -/
def Moment.reports (transport : Transport Net Sock) (config : Config) :
    Moment Net Sock → List String
  | .between acts => allReports transport ⟨Engine.new config, []⟩ acts
  | .amid acts lent _ _ _ =>
      allReports transport ⟨Engine.new config, []⟩ acts ++
        (run transport config acts).refusals lent

theorem enter_reported (session : Session) (lent : List (Connection Sock × Nat)) (network : Net) :
    (session.enter lent network).1.engine = session.engine.reported (session.refusals lent) :=
  Round.enlist_reported _ _ _

theorem ofRound_engine (round : Round Net Sock) (kept : List Batch) :
    (ofRound round kept).engine = round.engine := rfl

theorem perform_round (session : Session) (lent : List (Connection Sock × Nat)) (network : Net)
    (timeout : Duration) :
    session.perform transport (.round lent network timeout) =
      ofRound ((session.enter lent network).1.execute transport timeout).2
        (session.enter lent network).2 := rfl

theorem revise_lastError {change : Engine → Batch → Batch × Engine}
    (keeps : ∀ engine batch, (change engine batch).2.lastError = engine.lastError)
    (session : Session) (index : Nat) :
    (session.revise index change).engine.lastError = session.engine.lastError := by
  unfold revise
  split
  · rfl
  · exact keeps _ _

theorem surrender_lastError {take : Engine → Batch → Engine}
    (keeps : ∀ engine batch, (take engine batch).lastError = engine.lastError)
    (session : Session) (index : Nat) :
    (session.surrender index take).engine.lastError = session.engine.lastError := by
  unfold surrender
  split
  · rfl
  · exact keeps _ _

/-- Only opening connections and rounds, also those that cannot be had, report errors. -/
theorem perform_reported (session : Session) (act : Act Net Sock) :
    (session.perform transport act).engine.lastError =
      (session.engine.reported (session.reports transport act)).lastError := by
  cases act with
  | make => rfl
  | obtain =>
      unfold perform receive Engine.batch
      dsimp only
      split <;> rfl
  | use index use =>
      apply revise_lastError
      intro engine batch
      rw [onBatch_state]
  | reset index =>
      apply revise_lastError
      intro engine batch
      rfl
  | recycle index =>
      apply surrender_lastError
      intro engine batch
      unfold Engine.recycle
      dsimp only
      split <;> rfl
  | drop index =>
      apply surrender_lastError
      intro engine batch
      rfl
  | connect address =>
      unfold perform reports Engine.connection
      dsimp only
      cases Endpoint.parse address session.engine.config.defaultPort <;> rfl
  | round lent network timeout =>
      unfold reports
      dsimp only
      rw [perform_round, ofRound_engine, Engine.reported_append,
        ← enter_reported session lent network]
      exact Round.execute_reported transport _ timeout
  | noPoller network error => rfl

theorem perform_config (session : Session) (act : Act Net Sock) :
    (session.perform transport act).engine.config = session.engine.config := by
  have standing : Batch.Standing session.engine.config (fun _ => True) fun _ => True :=
    ⟨trivial, id, fun _ _ => trivial, fun _ _ => trivial⟩
  have every : Every session.engine.config (fun _ => True) (fun _ => True) session :=
    ⟨rfl, fun _ _ => trivial, fun _ _ => trivial⟩
  exact ((effect_perform session act).every standing every).settings

theorem foldl_reported (acts : List (Act Net Sock)) (session : Session) :
    (acts.foldl (perform transport) session).engine.lastError =
      (session.engine.reported (session.allReports transport acts)).lastError := by
  induction acts generalizing session with
  | nil => rfl
  | cons act acts ih =>
      rw [List.foldl_cons, ih, allReports, Engine.reported_append]
      apply Engine.reported_congr
      · rw [perform_config, Engine.reported_config]
      · exact perform_reported session act

theorem run_config (transport : Transport Net Sock) (config : Config)
    (acts : List (Act Net Sock)) : (run transport config acts).engine.config = config := by
  induction acts using List.reverseRecOn with
  | nil => rfl
  | append_singleton acts act ih => rw [run_snoc, perform_config, ih]

theorem Moment.lastError (config : Config) (moment : Moment Net Sock) :
    (moment.session transport config).engine.lastError =
      (moment.reports transport config).getLast?.map
        (Text.truncate · config.maxErrorLength) := by
  have fromNew : ∀ messages, ((Engine.new config).reported messages).lastError =
      messages.getLast?.map (Text.truncate · config.maxErrorLength) := by
    intro messages
    rw [Engine.reported_lastError]
    exact Option.or_none
  rw [← fromNew]
  cases moment with
  | between acts => exact foldl_reported acts _
  | amid acts lent network timeout count =>
      have entered := enter_reported (run transport config acts) lent network
      have stays := Round.replay_lastError transport
        ((run transport config acts).enter lent network).1
        ((((run transport config acts).enter lent network).1.steps transport timeout).take count)
      rw [entered] at stays
      rw [Moment.reports, Engine.reported_append]
      apply stays.trans
      apply Engine.reported_congr
      · rw [run_config, Engine.reported_config]
        rfl
      · exact foldl_reported acts _

end Session

/-- Every error text is the longest beginning of whole characters of its full message that the
largest length allows. To find it byte by byte from the end never fails and gives the same. The text
that a connection leaves in a batch is that of one of its causes, for its endpoint and with the
length of the engine that made it, however often it was used before; a text that is there is never
replaced. All error replies of an abort have the length of its text and are read back as it, at
every moment of the life of a batch. The latest error of an engine is the last one that was reported
to it. -/
theorem error_texts_fit (transport : Transport Net Sock) :
    (∀ (text : String) (largest : Nat),
        Text.cutBack text.toUTF8 largest = .ok (Text.truncate text largest).toUTF8 ∧
          Text.LongestFit text largest (Text.truncate text largest) ∧
          (text.utf8ByteSize ≤ largest → Text.truncate text largest = text)) ∧
      (∀ (config : Config) (endpoint : Endpoint) (entry pair : Pair Sock),
        entry.connection.Opened transport config endpoint → entry.Becomes transport pair →
          pair.batch.abortText = entry.batch.abortText ∨
            entry.batch.abortText = none ∧ ∃ (cause : AbortCause) (text : String),
              pair.batch.abortText = some text ∧
                Text.LongestFit (cause.message endpoint) config.maxErrorLength text) ∧
      (∀ (start : Metered Batch) (received : ByteArray) (batch : Batch), Batch.Started start →
        Batch.Course transport start.item received batch →
          batch.Echoes ∧ ∀ (connection : Connection Sock) (pair : Pair Sock),
            Pair.Becomes transport ⟨connection, batch⟩ pair → pair.batch.Echoes) ∧
      ∀ (config : Config) (moment : Session.Moment Net Sock) (text : String),
        (moment.session transport config).engine.lastError = some text ↔
          ∃ message, (moment.reports transport config).getLast? = some message ∧
            Text.LongestFit message config.maxErrorLength text := by
  refine ⟨?_, ?_, ?_, ?_⟩
  · intro text largest
    refine ⟨Text.cutBack_eq text largest, Text.truncate_longestFit text largest, ?_⟩
    intro fits
    exact (Text.longestFit_iff.mp (Text.longestFit_self fits)).symm
  · intro config endpoint entry pair opened becomes
    have text := becomes.told.text
    rwa [opened.settings.1, opened.settings.2] at text
  · intro start received batch started course
    have readable := (course.outlasts started.readable.1).readable
    exact ⟨readable.echoes, fun _ _ becomes => (readable.becomes becomes).echoes⟩
  · intro config moment text
    rw [Session.Moment.lastError, Option.map_eq_some_iff]
    constructor
    · rintro ⟨message, last, rfl⟩
      exact ⟨message, last, Text.truncate_longestFit message config.maxErrorLength⟩
    · rintro ⟨message, last, fit⟩
      exact ⟨message, last, (Text.longestFit_iff.mp fit).symm⟩

/-- Settings under which an error text ends inside a character of two bytes. -/
def narrow : Config := { readBufferSize := 1, writeBufferSize := 6, maxErrorLength := 51 }

def unnamed : Pair Unit where
  connection := Connection.new ⟨"é", 6379⟩ narrow.maxErrorLength
  batch := (Batch.Use.operation (.write ⟨#[80, 73, 78, 71, 13, 10]⟩ 1)
    |>.leaves (Batch.allocate narrow {})).item

theorem error_texts_fit_unnamed :
    ∃ pair cause, unnamed.Becomes Round.stranded pair ∧ pair.batch.Echoes ∧
      pair.batch.abortText = some "Connection error could not resolve address [addr: " ∧
      Text.LongestFit (AbortCause.message cause ⟨"é", 6379⟩) 51
        "Connection error could not resolve address [addr: " := by
  obtain ⟨_, texts, echoes, _⟩ := error_texts_fit Round.stranded
  have named : Endpoint.parse "é" narrow.defaultPort = .ok ⟨"é", 6379⟩ := by decide +kernel
  have opened : unnamed.connection.Opened Round.stranded narrow ⟨"é", 6379⟩ := by
    apply @Connection.Opened.made _ _ _ _ _ (Engine.new narrow) "é" _ rfl named
    exact Engine.connection_of_named named
  have becomes : ∃ pair, unnamed.Becomes Round.stranded pair ∧
      pair.batch.abortText = some "Connection error could not resolve address [addr: " := by
    have text : Text.truncate (AbortCause.message .unresolved ⟨"é", 6379⟩) 51 =
        "Connection error could not resolve address [addr: " := by
      decide +kernel
    rw [← text]
    exact ⟨_, ⟨Engine.new narrow, (), [unnamed], 0, 1, 0, rfl, rfl⟩, rfl⟩
  obtain ⟨pair, becomes, known⟩ := becomes
  have course : Batch.Course Round.stranded (Batch.allocate narrow {}).item _ unnamed.batch :=
    Batch.Course.rests.used _ (.write ⟨#[80, 73, 78, 71, 13, 10]⟩ 1) trivial
  obtain ⟨_, echo⟩ := echoes _ _ _ (.made narrow {}) course
  rcases texts narrow ⟨"é", 6379⟩ unnamed pair opened becomes with same | ⟨_, fresh⟩
  · have plain : unnamed.batch.abortText = none := rfl
    rw [known, plain] at same
    cases same
  · obtain ⟨cause, text, told, fit⟩ := fresh
    rw [known] at told
    cases told
    exact ⟨pair, cause, becomes, echo _ pair becomes, known, fit⟩

end Fanout
