import Fanout.Proofs.Reading

/-!
Draining: `execute` is called again and again until it gives nothing or fails, on one piece of
data or on ever longer prefixes of it. Every way to cut a stream gives the replies, the error and
the parser that feeding it byte by byte gives.
-/

set_option autoImplicit false

namespace Fanout.Parser

theorem Reaches.read_eq {parser : Parser} {data : ByteArray} {outcome : Reading}
    (reached : parser.Reaches data outcome)
    (ended : outcome.error = none → outcome.parser.position = data.size) :
    parser.read (parser.unread data) = outcome := by
  obtain ⟨taken, unread, _, reads⟩ := reached
  rw [unread, read_append, reads]
  cases failed : outcome.error with
  | none =>
      rw [unread_of_le (Nat.le_of_eq (ended failed).symm), Reading.resume_of_none failed]
      simp only [read, List.append_nil, ← failed]
  | some error => exact Reading.resume_of_error failed

theorem position_of_incomplete {parser next : Parser} {data : ByteArray} (sound : parser.Sound)
    (inside : parser.position ≤ data.size) (ran : parser.run data = (next, .incomplete)) :
    next.position = data.size := by
  fun_induction run parser data with
  | case1 parser skimmed more middle step ih =>
      have both := (reaches_skim sound inside).trans (reaches_feed skimmed more)
      rw [step] at both
      exact ih (both.sound sound) (both.inside inside) ran
  | case2 parser skimmed more middle outcome stops step =>
      obtain ⟨rfl, rfl⟩ := Prod.mk.inj ran
      exact (stops rfl).elim
  | case3 parser skimmed done =>
      obtain ⟨rfl, _⟩ := Prod.mk.inj ran
      have held := (reaches_skim sound inside).inside inside
      exact Nat.le_antisymm held (Nat.le_of_not_lt done)

theorem position_of_stopped {parser next : Parser} {data : ByteArray} {progress : Progress}
    (ran : parser.run data = (next, progress)) (stopped : progress ≠ .incomplete) :
    parser.position < data.size ∧ parser.position < next.position := by
  fun_induction run parser data with
  | case1 parser skimmed more middle step ih =>
      have skims : parser.position ≤ skimmed.position := position_le_skim parser data
      have moved : middle.position = skimmed.position + 1 := by
        rw [← position_feed skimmed data[skimmed.position], step]
      have later := ih ran
      omega
  | case2 parser skimmed more middle outcome stops step =>
      have skims : parser.position ≤ skimmed.position := position_le_skim parser data
      have moved : middle.position = skimmed.position + 1 := by
        rw [← position_feed skimmed data[skimmed.position], step]
      obtain ⟨rfl, _⟩ := Prod.mk.inj ran
      omega
  | case3 parser skimmed done => exact absurd (Prod.mk.inj ran).2.symm stopped

def drain (parser : Parser) (data : ByteArray) : Except Misuse Reading :=
  match _executed : parser.execute data with
  | .error rule => .error rule
  | .ok (next, .incomplete) => .ok ⟨next, [], none⟩
  | .ok (next, .malformed error) => .ok ⟨next, [], some error⟩
  | .ok (next, .complete reply) => (drain next data).map (Reading.cons reply)
termination_by data.size - parser.position
decreasing_by
  unfold execute at _executed
  split at _executed
  · have moved := position_of_stopped (Except.ok.inj _executed) nofun
    omega
  · cases _executed

/-- Takes replies from one piece of data after the other; a bad byte ends it. -/
def drainEach (parser : Parser) : List ByteArray → Except Misuse Reading
  | [] => .ok ⟨parser, [], none⟩
  | data :: later =>
      match parser.drain data with
      | .error rule => .error rule
      | .ok reading =>
          match reading.error with
          | some _ => .ok reading
          | none =>
              (drainEach reading.parser later).map fun rest =>
                { rest with replies := reading.replies ++ rest.replies }

theorem execute_eq_run {parser : Parser} {data : ByteArray}
    (inside : parser.position ≤ data.size) : parser.execute data = .ok (parser.run data) :=
  if_pos inside

theorem drain_eq_read {parser : Parser} (sound : parser.Sound) {data : ByteArray}
    (inside : parser.position ≤ data.size) :
    parser.drain data = .ok (parser.read (parser.unread data)) := by
  fun_induction drain parser data with
  | case1 parser rule refused =>
      rw [execute_eq_run inside] at refused
      cases refused
  | case2 parser next executed =>
      rw [execute_eq_run inside] at executed
      have ran := Except.ok.inj executed
      have reached := reaches_run sound inside
      rw [ran] at reached
      rw [reached.read_eq fun _ => position_of_incomplete sound inside ran]
      rfl
  | case3 parser next error executed =>
      rw [execute_eq_run inside] at executed
      have reached := reaches_run sound inside
      rw [Except.ok.inj executed] at reached
      rw [reached.read_eq nofun]
      rfl
  | case4 parser next reply executed ih =>
      rw [execute_eq_run inside] at executed
      have reached := reaches_run sound inside
      rw [Except.ok.inj executed] at reached
      rw [ih (reached.sound sound) (reached.inside inside)]
      obtain ⟨taken, unread, _, reads⟩ := reached
      rw [unread, read_append_of_fine reads]
      rfl

theorem sound_new : Sound {} := sound_of_phase (by decide)

theorem drain_new (data : ByteArray) : drain {} data = .ok (read {} data.data.toList) :=
  drain_eq_read sound_new (Nat.zero_le data.size)

theorem position_of_drained {parser : Parser} {data : ByteArray}
    (inside : parser.position ≤ data.size)
    (fine : (parser.read (parser.unread data)).error = none) :
    (parser.read (parser.unread data)).parser.position = data.size := by
  rw [position_read fine, unread, List.length_drop, Array.length_toList, ByteArray.size_data]
  omega

theorem toList_extract_zero (data : ByteArray) (stop : Nat) :
    (data.extract 0 stop).data.toList = data.data.toList.take stop := by
  rw [ByteArray.data_extract, Array.toList_extract, List.extract_eq_take_drop, List.drop_zero,
    Nat.sub_zero]

theorem unread_extract {parser : Parser} {data : ByteArray} {stop : Nat}
    (inside : parser.position ≤ (data.extract 0 stop).size) :
    parser.unread data =
      parser.unread (data.extract 0 stop) ++ data.data.toList.drop (data.extract 0 stop).size := by
  have size : (data.extract 0 stop).size = min stop data.data.toList.length := by
    rw [ByteArray.size_extract, Nat.sub_zero, Array.length_toList, ByteArray.size_data]
  rw [size] at inside ⊢
  rw [unread, unread, toList_extract_zero]
  conv => lhs; rw [← List.take_append_drop stop data.data.toList]
  rw [List.drop_append_of_le_length (by rw [List.length_take]; exact inside)]
  congr 1
  by_cases longer : stop ≤ data.data.toList.length
  · rw [Nat.min_eq_left longer]
  · rw [Nat.min_eq_right (by omega), List.drop_length, List.drop_eq_nil_of_le (by omega)]

theorem drainEach_of_error {parser : Parser} {data : ByteArray} {reading : Reading}
    {error : ParseError} (drained : parser.drain data = .ok reading)
    (failed : reading.error = some error) (later : List ByteArray) :
    parser.drainEach (data :: later) = .ok reading := by
  simp only [drainEach, drained, failed]

theorem drainEach_of_fine {parser : Parser} {data : ByteArray} {reading outcome : Reading}
    {later : List ByteArray} (drained : parser.drain data = .ok reading)
    (fine : reading.error = none) (rest : reading.parser.drainEach later = .ok outcome) :
    parser.drainEach (data :: later) =
      .ok { outcome with replies := reading.replies ++ outcome.replies } := by
  simp only [drainEach, drained, fine, rest, Except.map]

theorem drainEach_eq_read {parser : Parser} (sound : parser.Sound) {data : ByteArray}
    {cuts : List Nat} (sorted : cuts.Pairwise (· ≤ ·))
    (ahead : ∀ stop ∈ cuts, parser.position ≤ (data.extract 0 stop).size)
    (inside : parser.position ≤ data.size) :
    parser.drainEach ((cuts.map fun stop => data.extract 0 stop) ++ [data]) =
      .ok (parser.read (parser.unread data)) := by
  induction cuts generalizing parser with
  | nil =>
      have drained := drain_eq_read sound inside
      cases failed : (parser.read (parser.unread data)).error with
      | some error => exact drainEach_of_error drained failed []
      | none =>
          rw [List.map_nil, List.nil_append, drainEach_of_fine drained failed rfl]
          simp only [List.append_nil, ← failed]
  | cons stop cuts ih =>
      obtain ⟨below, sorted⟩ := List.pairwise_cons.mp sorted
      have reachable := ahead stop List.mem_cons_self
      have drained := drain_eq_read sound reachable
      rw [unread_extract reachable]
      cases failed : (parser.read (parser.unread (data.extract 0 stop))).error with
      | some error =>
          rw [read_append, Reading.resume_of_error failed]
          exact drainEach_of_error drained failed _
      | none =>
          have position := position_of_drained reachable failed
          have growing : ∀ later ∈ cuts,
              (data.extract 0 stop).size ≤ (data.extract 0 later).size := by
            intro later member
            have order := below later member
            simp only [ByteArray.size_extract]
            omega
          have whole : (data.extract 0 stop).size ≤ data.size := by
            simp only [ByteArray.size_extract]
            omega
          have rest := ih (sound_read sound (parser.unread (data.extract 0 stop))) sorted
            (by rw [position]; exact growing) (by rw [position]; exact whole)
          have next : (parser.read (parser.unread (data.extract 0 stop))).parser.unread data =
              data.data.toList.drop (data.extract 0 stop).size := by
            rw [← position]
            rfl
          rw [read_append, Reading.resume_of_none failed, List.map_cons, List.cons_append,
            drainEach_of_fine drained failed rest, next]

/-- Neither the cuts between the pieces nor the bytes that are skipped at once can be seen in the
replies, the error and the parser that draining ends with. -/
theorem drain_cuts (data : ByteArray) (cuts : List Nat) (sorted : cuts.Pairwise (· ≤ ·)) :
    drainEach {} ((cuts.map fun stop => data.extract 0 stop) ++ [data]) = drain {} data ∧
      drain {} data = .ok (read {} data.data.toList) := by
  constructor
  · rw [drain_new]
    exact drainEach_eq_read sound_new sorted (fun _ _ => Nat.zero_le _)
      (Nat.zero_le data.size)
  · exact drain_new data

theorem drain_cuts_in_line :
    drainEach {} (([0, 1, 3].map fun stop => "+OK\r\n".toUTF8.extract 0 stop) ++
        ["+OK\r\n".toUTF8]) =
      drain {} "+OK\r\n".toUTF8 ∧
      drain {} "+OK\r\n".toUTF8 = .ok (read {} "+OK\r\n".toUTF8.data.toList) :=
  drain_cuts _ [0, 1, 3] (by decide)

end Fanout.Parser
