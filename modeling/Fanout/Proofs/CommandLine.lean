import Fanout.CommandLine.Options
import Fanout.Proofs.Integers

/-!
What a command line says. Options stand in front, each with its value in the next word, then the
command with or without `--` before it. A round is asked for by such lines and by no others, and the
words of a line leave no choice of what is an option, what is a value and what is the command.
-/

set_option autoImplicit false

namespace Fanout

/-! ### Natural numbers as text -/

namespace Decimal

inductive Counts : List UInt8 → Nat → Prop where
  | plain {digits : List UInt8} (present : digits ≠ [])
      (decimal : ∀ byte ∈ digits, isDigit byte = true) : Counts digits (magnitude digits)
  | plus {digits : List UInt8} (present : digits ≠ [])
      (decimal : ∀ byte ∈ digits, isDigit byte = true) : Counts (43 :: digits) (magnitude digits)

variable {text digits : List UInt8} {largest value : Nat}

theorem readDigits_eq_some : readDigits digits = some value ↔
    digits ≠ [] ∧ (∀ byte ∈ digits, isDigit byte = true) ∧ value = magnitude digits := by
  constructor
  · intro reads
    by_cases shape : digits ≠ [] ∧ ∀ byte ∈ digits, isDigit byte = true
    · rw [readDigits_eq shape.1 shape.2, Option.some.injEq] at reads
      exact ⟨shape.1, shape.2, reads.symm⟩
    · have rejected : (!digits.isEmpty && digits.all isDigit) = false := by
        simpa using shape
      rw [readDigits, rejected] at reads
      cases reads
  · rintro ⟨present, decimal, rfl⟩
    exact readDigits_eq present decimal

/-- Just the texts of numbers within the bound are read, each as its number. -/
theorem readNatural_eq_some :
    readNatural largest text = some value ↔ Counts text value ∧ value ≤ largest := by
  unfold readNatural
  rw [Option.filter_eq_some_iff, decide_eq_true_eq, and_congr_left_iff]
  intro _
  constructor
  · intro reads
    split at reads
    · obtain ⟨present, decimal, rfl⟩ := readDigits_eq_some.mp reads
      exact .plus present decimal
    · obtain ⟨present, decimal, rfl⟩ := readDigits_eq_some.mp reads
      exact .plain present decimal
  · intro counts
    cases counts with
    | plain present decimal =>
        split
        · cases decimal 43 List.mem_cons_self
        · exact readDigits_eq present decimal
    | plus present decimal => exact readDigits_eq present decimal

end Decimal

/-! ### Lines -/

namespace CommandLine

inductive Spelling where
  | short
  | long

def Spelling.of (short long : String) : Spelling → String
  | .short => short
  | .long => long

structure Numeral where
  text : String
  millis : Nat
  counts : Decimal.Counts text.toUTF8.data.toList millis
  small : millis < 2 ^ 64

inductive Setting where
  | server (spelling : Spelling) (address : String)
  | timeout (spelling : Spelling) (numeral : Numeral)

namespace Setting

def name : Setting → String
  | .server spelling _ => spelling.of "-s" "--server"
  | .timeout spelling _ => spelling.of "-t" "--timeout"

def value : Setting → String
  | .server _ address => address
  | .timeout _ numeral => numeral.text

def words (setting : Setting) : List String := [setting.name, setting.value]

def address? : Setting → Option String
  | .server _ address => some address
  | .timeout _ _ => none

def millis? : Setting → Option Nat
  | .server _ _ => none
  | .timeout _ numeral => some numeral.millis

def set (options : Options) : Setting → Options
  | .server _ address => { options with servers := options.servers ++ [address] }
  | .timeout _ numeral => { options with timeout := numeral.millis }

end Setting

/-- A line that asks for a round. A command whose first word starts with a dash has to be closed off
from the options. -/
structure Line where
  settings : List Setting
  closed : Bool
  command : List String
  present : command ≠ []
  plain : closed = false → ∀ first ∈ command.head?, startsWithDash first = false

namespace Line

def close (line : Line) : List String := if line.closed then ["--"] else []

def words (line : Line) : List String :=
  line.settings.flatMap Setting.words ++ (line.close ++ line.command)

def servers (line : Line) : List String := line.settings.filterMap Setting.address?

/-- What a line asks for. Every server counts, in its place; of the timeouts the last one does. -/
def options (line : Line) : Options where
  servers := if line.servers = [] then ["127.0.0.1:6379"] else line.servers
  timeout := (line.settings.filterMap Setting.millis?).getLast?.getD 1000
  command := line.command

def after (setting : Setting) (line : Line) : Line :=
  { line with settings := setting :: line.settings }

end Line

variable {options result : Options} {words : List String}

/-! ### Reading a line -/

theorem readTimeout_eq_some {text : String} {millis : Nat} : readTimeout text = some millis ↔
    Decimal.Counts text.toUTF8.data.toList millis ∧ millis < 2 ^ 64 := by
  have bound : millis ≤ largestWord ↔ millis < 2 ^ 64 := by
    unfold largestWord
    omega
  rw [readTimeout, Decimal.readNatural_eq_some, bound]

theorem readFrom_setting (setting : Setting) :
    readFrom options (setting.words ++ words) = readFrom (setting.set options) words := by
  cases setting with
  | server spelling address => cases spelling <;> rfl
  | timeout spelling numeral =>
      have reads := readTimeout_eq_some.mpr ⟨numeral.counts, numeral.small⟩
      cases spelling <;> simp [Setting.words, Setting.name, Setting.value, Setting.set,
        Spelling.of, readFrom, reads]

theorem readFrom_settings (settings : List Setting) :
    readFrom options (settings.flatMap Setting.words ++ words) =
      readFrom (settings.foldl Setting.set options) words := by
  induction settings generalizing options with
  | nil => rfl
  | cons setting settings ih =>
      rw [List.flatMap_cons, List.append_assoc, readFrom_setting, ih, List.foldl_cons]

theorem foldl_set (settings : List Setting) :
    settings.foldl Setting.set options =
      { options with
        servers := options.servers ++ settings.filterMap Setting.address?
        timeout := (settings.filterMap Setting.millis?).getLast?.getD options.timeout } := by
  induction settings generalizing options with
  | nil => simp
  | cons setting settings ih =>
      rw [List.foldl_cons, ih]
      cases setting with
      | server spelling address =>
          simp [Setting.set, Setting.address?, Setting.millis?, List.filterMap_cons]
      | timeout spelling numeral =>
          simp [Setting.set, Setting.address?, Setting.millis?, List.filterMap_cons,
            List.getLast?_cons]

/-- No word that starts without a dash is taken for anything else than the command. -/
theorem readFrom_plain {first : String} (plain : startsWithDash first = false) :
    readFrom options (first :: words) = complete { options with command := first :: words } := by
  have other : ∀ option : String, startsWithDash option = true → first ≠ option := by
    rintro option dash rfl
    rw [plain] at dash
    cases dash
  have dashed : ∀ option ∈ ["--server", "-s", "--timeout", "-t", "--help", "-h", "--version", "-v",
      "--"], startsWithDash option = true := by
    decide
  have none : ∀ option ∈ ["--server", "-s", "--timeout", "-t", "--help", "-h", "--version", "-v",
      "--"], first ≠ option := fun option among => other option (dashed option among)
  simp only [List.forall_mem_cons] at none
  unfold readFrom
  simp [none, plain]

theorem readFrom_command (line : Line) :
    readFrom options (line.close ++ line.command) =
      complete { options with command := line.command } := by
  unfold Line.close
  cases closed : line.closed with
  | false =>
      cases same : line.command with
      | nil => exact absurd same line.present
      | cons first words =>
          have plain := line.plain closed first (by rw [same]; rfl)
          exact readFrom_plain plain
  | true =>
      simp only [if_true, List.cons_append, List.nil_append]
      unfold readFrom
      rfl

theorem complete_present (present : options.command ≠ []) :
    complete options = .run { options with
      servers := if options.servers = [] then [defaultServer] else options.servers } := by
  unfold complete
  rw [if_neg (by simpa using present)]
  by_cases empty : options.servers = []
  · rw [if_pos (by simpa using empty), if_pos empty]
  · rw [if_neg (by simpa using empty), if_neg empty]

theorem read_line (line : Line) : read line.words = .run line.options := by
  rw [read, Line.words, readFrom_settings, readFrom_command, complete_present line.present,
    foldl_set]
  rfl

/-! ### Nothing else asks for a round -/

theorem complete_run (run : complete options = .run result) : options.command ≠ [] := by
  intro empty
  rw [complete, empty] at run
  cases run

theorem exists_spelling {short long word : String}
    (named : (word = long || word = short) = true) :
    ∃ spelling : Spelling, spelling.of short long = word := by
  simp only [Bool.or_eq_true, decide_eq_true_eq] at named
  rcases named with rfl | rfl
  · exact ⟨.long, rfl⟩
  · exact ⟨.short, rfl⟩

/-- What is read as a request for a round, is a line. -/
theorem exists_line (without : options.command = []) (run : readFrom options words = .run result) :
    ∃ line : Line, line.words = words := by
  fun_induction readFrom options words with
  | case1 options => exact absurd without (complete_run run)
  | case2 | case4 | case5 | case7 | case8 | case10 => cases run
  | case3 options word named address words ih =>
      obtain ⟨spelling, rfl⟩ := exists_spelling named
      obtain ⟨line, rfl⟩ := ih without run
      exact ⟨line.after (.server spelling address), rfl⟩
  | case6 options word _ named value words millis reads ih =>
      obtain ⟨spelling, rfl⟩ := exists_spelling named
      obtain ⟨line, rfl⟩ := ih without run
      obtain ⟨counts, small⟩ := readTimeout_eq_some.mp reads
      exact ⟨line.after (.timeout spelling ⟨value, millis, counts, small⟩), rfl⟩
  | case9 options words => exact ⟨⟨[], true, words, complete_run run, nofun⟩, rfl⟩
  | case11 options first words _ _ _ _ _ plain =>
      exact ⟨⟨[], false, first :: words, complete_run run, by simpa using plain⟩, rfl⟩

/-! ### One line for its words -/

theorem Numeral.eq_of_text {one two : Numeral} (same : one.text = two.text) : one = two := by
  obtain ⟨text, millis, counts, small⟩ := one
  obtain ⟨text', millis', counts', small'⟩ := two
  obtain rfl : text = text' := same
  have reads := readTimeout_eq_some.mpr ⟨counts, small⟩
  have reads' := readTimeout_eq_some.mpr ⟨counts', small'⟩
  obtain rfl : millis = millis' := Option.some.inj (reads.symm.trans reads')
  rfl

theorem Spelling.of_injective {short long : String} (distinct : short ≠ long) :
    Function.Injective (Spelling.of short long) := by
  intro one two same
  cases one with
  | short =>
      cases two with
      | short => rfl
      | long => exact absurd same distinct
  | long =>
      cases two with
      | short => exact absurd same.symm distinct
      | long => rfl

theorem Spelling.of_ne (one two : Spelling) : one.of "-s" "--server" ≠ two.of "-t" "--timeout" := by
  cases one <;> cases two <;> decide

theorem Setting.eq_of_words {one two : Setting} (name : one.name = two.name)
    (value : one.value = two.value) : one = two := by
  cases one with
  | server spelling address =>
      cases two with
      | server spelling' address' =>
          obtain rfl : address = address' := value
          rw [Spelling.of_injective (by decide) name]
      | timeout spelling' numeral => exact absurd name (spelling.of_ne spelling')
  | timeout spelling numeral =>
      cases two with
      | server spelling' address => exact absurd name.symm (spelling'.of_ne spelling)
      | timeout spelling' numeral' =>
          rw [Spelling.of_injective (by decide) name, Numeral.eq_of_text value]

theorem Setting.name_dashed (setting : Setting) :
    startsWithDash setting.name = true ∧ setting.name ≠ "--" := by
  have dashed : ∀ name ∈ ["-s", "--server", "-t", "--timeout"],
      startsWithDash name = true ∧ name ≠ "--" := by
    decide
  apply dashed
  cases setting with
  | server spelling address => cases spelling <;> simp [name, Spelling.of]
  | timeout spelling numeral => cases spelling <;> simp [name, Spelling.of]

/-- Behind the settings no word can be taken for another one. -/
theorem Line.close_command_ne (line : Line) (setting : Setting) (words : List String) :
    line.close ++ line.command ≠ setting.name :: words := by
  intro same
  obtain ⟨dash, other⟩ := setting.name_dashed
  unfold close at same
  cases closed : line.closed with
  | true =>
      rw [closed] at same
      exact other (List.head_eq_of_cons_eq same).symm
  | false =>
      rw [closed] at same
      have plain := line.plain closed setting.name (congrArg List.head? same)
      rw [dash] at plain
      cases plain

/-- A command that was closed off is another one than a command that was not. -/
theorem Line.command_eq {one two : Line}
    (same : one.close ++ one.command = two.close ++ two.command) :
    one.closed = two.closed ∧ one.command = two.command := by
  have mixed : ∀ {closed plain : Line}, closed.closed = true → plain.closed = false →
      closed.close ++ closed.command ≠ plain.close ++ plain.command := by
    intro closed plain is not same
    unfold close at same
    rw [is, not] at same
    have free := plain.plain not "--" (congrArg List.head? same.symm)
    cases free
  cases closed : one.closed with
  | true =>
      cases closed' : two.closed with
      | true =>
          unfold close at same
          rw [closed, closed'] at same
          exact ⟨rfl, List.tail_eq_of_cons_eq same⟩
      | false => exact absurd same (mixed closed closed')
  | false =>
      cases closed' : two.closed with
      | true => exact absurd same.symm (mixed closed' closed)
      | false =>
          unfold close at same
          rw [closed, closed'] at same
          exact ⟨rfl, same⟩

theorem words_injective : Function.Injective Line.words := by
  rintro ⟨settings, closed, command, present, plain⟩
    ⟨settings', closed', command', present', plain'⟩ same
  induction settings generalizing settings' with
  | nil =>
      cases settings' with
      | nil =>
          obtain ⟨rfl, rfl⟩ := Line.command_eq same
          rfl
      | cons setting settings' => exact absurd same (Line.close_command_ne _ setting _)
  | cons setting settings ih =>
      cases settings' with
      | nil => exact absurd same.symm (Line.close_command_ne _ setting _)
      | cons setting' settings' =>
          have names := List.head_eq_of_cons_eq same
          have values := List.head_eq_of_cons_eq (List.tail_eq_of_cons_eq same)
          have rest := ih settings' (List.tail_eq_of_cons_eq (List.tail_eq_of_cons_eq same))
          obtain rfl := Setting.eq_of_words names values
          cases rest
          rfl

/-- The command line is read unambiguously. Every line of settings and a command asks for its own
servers in their order, its last timeout and its own command, whatever its values and the words of
its command look like. Nothing else asks for a round, and the words of a line are those of no other
line. -/
theorem read_unambiguous :
    (∀ line : Line, read line.words = .run line.options) ∧
    ∀ words options, read words = .run options ↔
      ∃! line : Line, line.words = words ∧ line.options = options := by
  constructor
  · exact read_line
  · intro words options
    constructor
    · intro run
      obtain ⟨line, rfl⟩ := exists_line rfl run
      have own := run
      rw [read_line, Request.run.injEq] at own
      apply ExistsUnique.intro line ⟨rfl, own⟩
      rintro other ⟨same, _⟩
      exact words_injective same
    · rintro ⟨line, ⟨rfl, rfl⟩, _⟩
      exact read_line line

theorem read_unambiguous_dashes :
    read ["-s", "--", "-t", "7", "--server", "-t", "--timeout", "+0012", "--", "-s"] =
      .run ⟨["--", "-t"], 12, ["-s"]⟩ := by
  have seven := readTimeout_eq_some.mp (show readTimeout "7" = some 7 by decide +kernel)
  have twelve := readTimeout_eq_some.mp (show readTimeout "+0012" = some 12 by decide +kernel)
  exact read_unambiguous.1 {
    settings := [.server .short "--", .timeout .short ⟨"7", 7, seven.1, seven.2⟩,
      .server .long "-t", .timeout .long ⟨"+0012", 12, twelve.1, twelve.2⟩]
    closed := true
    command := ["-s"]
    present := List.cons_ne_nil _ _
    plain := nofun }

example : read ["-t", "5", "", "-s", "--help"] =
    .run ⟨["127.0.0.1:6379"], 5, ["", "-s", "--help"]⟩ := by
  decide +kernel

end CommandLine

end Fanout
