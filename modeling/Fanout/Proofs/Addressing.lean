import Fanout.Endpoint.Basic
import Fanout.Proofs.Encoding

/-!
Endpoints as texts. The writer puts brackets around a host that has a colon, the reader takes a text
that begins with a bracket for a bracketed one; so the text of an endpoint is read back exactly if
these two agree on its host.
-/

set_option autoImplicit false

namespace Fanout

/-! ### Texts -/

theorem Text.dropWhile_of_plain {text : List Char} (plain : text.any isBlank = false) :
    text.dropWhile isBlank = text := by
  cases text with
  | nil => rfl
  | cons char text =>
      rw [List.any_cons, Bool.or_eq_false_iff] at plain
      rw [List.dropWhile_cons, plain.1, if_neg Bool.false_ne_true]

theorem Text.trimBlanks_of_plain {text : List Char} (plain : text.any isBlank = false) :
    trimBlanks text = text := by
  have reversed : text.reverse.any isBlank = false := by rw [List.any_reverse, plain]
  unfold trimBlanks
  rw [dropWhile_of_plain plain, dropWhile_of_plain reversed, List.reverse_reverse]

theorem Text.isBlank_of_isDigit {char : Char} (digit : char.isDigit = true) :
    isBlank char = false := by
  have between : 48 ≤ char.toNat ∧ char.toNat ≤ 57 := by
    simpa [Char.isDigit, UInt32.le_iff_toNat_le] using digit
  unfold isBlank
  simp only [Bool.or_eq_false_iff, Bool.and_eq_false_iff, decide_eq_false_iff_not]
  omega

/-- The bytes of a text. -/
theorem utf8_ofList (text : List Char) :
    (String.ofList text).toUTF8.data.toList = text.flatMap String.utf8EncodeChar := by
  change (List.toByteArray (text.flatMap String.utf8EncodeChar)).data.toList = _
  rw [List.data_toByteArray]

namespace Decimal

theorem utf8_digitChar : ∀ value < 10, String.utf8EncodeChar value.digitChar = [digit value] := by
  decide

/-- The numeral of a number, as it is printed and as bytes. -/
theorem utf8_toDigits (value : Nat) :
    (Nat.toDigits 10 value).flatMap String.utf8EncodeChar = numeral value := by
  fun_induction numeral value with
  | case1 value small =>
      rw [Nat.toDigits_eq_if (by decide), if_pos small, List.flatMap_singleton,
        utf8_digitChar value small]
  | case2 value large ih =>
      rw [Nat.toDigits_eq_if (by decide), if_neg large, List.flatMap_append, ih,
        List.flatMap_singleton, utf8_digitChar _ (Nat.mod_lt value (by decide))]

theorem readDigits_numeral (value : Nat) : readDigits (numeral value) = some value := by
  rw [readDigits_of_decimal (numeral_ne_nil value) (isDigit_numeral value), valueFrom_numeral]

theorem readDigits_of_mem {text : List UInt8} {byte : UInt8} (among : byte ∈ text)
    (other : isDigit byte = false) : readDigits text = none := by
  have mixed : text.all isDigit = false := List.all_eq_false.mpr ⟨byte, among, by simp [other]⟩
  unfold readDigits
  rw [mixed, Bool.and_false]
  rfl

theorem readNatural_numeral {value largest : Nat} (bounded : value ≤ largest) :
    readNatural largest (numeral value) = some value := by
  unfold readNatural
  split
  · rename_i digits signed
    have first := isDigit_numeral value 43 (by rw [signed]; exact List.mem_cons_self)
    cases first
  · dsimp only
    rw [readDigits_numeral]
    exact if_pos (decide_eq_true bounded)

theorem readNatural_of_mem {largest : Nat} {text : List UInt8} {byte : UInt8}
    (among : byte ∈ text) (other : isDigit byte = false) (unsigned : byte ≠ 43) :
    readNatural largest text = none := by
  unfold readNatural
  split
  · rcases List.mem_cons.mp among with signed | later
    · exact absurd signed unsigned
    · dsimp only
      rw [readDigits_of_mem later other]
      rfl
  · dsimp only
    rw [readDigits_of_mem among other]
    rfl

end Decimal

namespace Endpoint

/-! ### Splitting -/

variable {separator : Char} {text before behind : List Char}

theorem splitAtFirst_of_absent (absent : separator ∉ text) :
    splitAtFirst separator text = none := by
  induction text with
  | nil => rfl
  | cons char text ih =>
      simp only [List.mem_cons, not_or] at absent
      rw [splitAtFirst, if_neg (Ne.symm absent.1), ih absent.2]
      rfl

theorem splitAtFirst_append (absent : separator ∉ before) :
    splitAtFirst separator (before ++ separator :: behind) = some (before, behind) := by
  induction before with
  | nil => exact if_pos rfl
  | cons char before ih =>
      simp only [List.mem_cons, not_or] at absent
      rw [List.cons_append, splitAtFirst, if_neg (Ne.symm absent.1), ih absent.2]
      rfl

theorem splitAtFirst_some (split : splitAtFirst separator text = some (before, behind)) :
    text = before ++ separator :: behind ∧ separator ∉ before := by
  induction text generalizing before with
  | nil => cases split
  | cons char text ih =>
      unfold splitAtFirst at split
      split at split
      · rename_i same
        cases split
        rw [same]
        exact ⟨rfl, List.not_mem_nil⟩
      · rename_i other
        obtain ⟨⟨front, back⟩, found, pair⟩ := Option.map_eq_some_iff.mp split
        cases pair
        obtain ⟨rfl, absent⟩ := ih found
        exact ⟨rfl, List.not_mem_cons_of_ne_of_not_mem (Ne.symm other) absent⟩

/-- A host that begins with a bracket has none that could close it. -/
theorem splitHost_bracket {host : List Char} {port : Option (List Char)}
    (split : splitHost text = some (host, port)) (opens : host.head? = some '[') :
    ']' ∉ host := by
  unfold splitHost at split
  split at split
  · split at split
    · cases split
    · rename_i found
      cases split
      exact (splitAtFirst_some found).2
    · rename_i found
      cases split
      exact (splitAtFirst_some found).2
    · cases split
  · rename_i unbracketed
    exfalso
    have leads : ∃ rest, text = host ++ rest := by
      split at split
      · cases split
        exact ⟨[], (List.append_nil _).symm⟩
      · rename_i front back found
        split at split
        · cases split
          exact ⟨[], (List.append_nil _).symm⟩
        · cases split
          exact ⟨_, (splitAtFirst_some found).1⟩
    obtain ⟨rest, rfl⟩ := leads
    cases host with
    | nil => cases opens
    | cons char host =>
        obtain rfl : char = '[' := Option.some.inj opens
        exact unbracketed (host ++ rest) rfl

theorem splitHost_of_port {host port : List Char} (plain : text.head? ≠ some '[')
    (found : splitAtFirst ':' text = some (host, port)) (single : ':' ∉ port) :
    splitHost text = some (host, some port) := by
  unfold splitHost
  split
  · exact absurd rfl plain
  · rw [found]
    exact if_neg (by rwa [List.contains_iff_mem])

theorem splitHost_of_closed {host tail : List Char} {char : Char}
    (found : splitAtFirst ']' text = some (host, char :: tail)) :
    splitHost ('[' :: text) = if char = ':' then some (host, some tail) else none := by
  rw [splitHost, found]
  by_cases colon : char = ':'
  · rw [colon]
    rfl
  · rw [if_neg colon]
    split
    · rfl
    · rename_i same
      cases same
    · rename_i same
      cases same
      exact absurd rfl colon
    · rfl

theorem splitHost_of_unclosed (unclosed : ']' ∉ text) : splitHost ('[' :: text) = none := by
  rw [splitHost, splitAtFirst_of_absent unclosed]

/-! ### Ports -/

def portText (port : UInt16) : List Char := Nat.toDigits 10 port.toNat

theorem isDigit_portText {port : UInt16} {char : Char} (among : char ∈ portText port) :
    char.isDigit = true :=
  Nat.isDigit_of_mem_toDigits (by decide) (by decide) among

theorem absent_portText (port : UInt16) {char : Char} (other : char.isDigit = false) :
    char ∉ portText port := by
  intro among
  rw [isDigit_portText among] at other
  cases other

theorem readPort_portText {port : UInt16} (given : port ≠ 0) :
    readPort (portText port) = some port := by
  have small : port.toNat ≤ 65535 := Nat.le_of_lt_succ port.toNat_lt
  have some : port.toNat ≠ 0 := by
    intro zero
    exact given (UInt16.toNat_inj.mp zero)
  unfold readPort portText
  rw [utf8_ofList, Decimal.utf8_toDigits, Decimal.readNatural_numeral small]
  simp [some]

theorem readPort_ne_zero {port : UInt16} (reads : readPort text = some port) : port ≠ 0 := by
  unfold readPort at reads
  obtain ⟨number, found, rfl⟩ := Option.map_eq_some_iff.mp reads
  obtain ⟨read, some⟩ := Option.filter_eq_some_iff.mp found
  have small : number ≤ 65535 := by
    unfold Decimal.readNatural at read
    exact of_decide_eq_true (Option.filter_eq_some_iff.mp read).2
  have nonzero : number ≠ 0 := by simpa using some
  intro zero
  have word : number % 2 ^ 16 = 0 := by
    rw [← UInt16.toNat_ofNat', zero]
    rfl
  omega

theorem readPort_of_bracket (bracket : ']' ∈ text) : readPort text = none := by
  have among : (93 : UInt8) ∈ text.flatMap String.utf8EncodeChar :=
    List.mem_flatMap.mpr ⟨']', bracket, by decide⟩
  unfold readPort
  rw [utf8_ofList, Decimal.readNatural_of_mem among (by decide) (by decide)]
  rfl

/-! ### Endpoints -/

structure Accepted (endpoint : Endpoint) : Prop where
  named : isHost endpoint.host.toList = true
  bracket : endpoint.host.toList.head? = some '[' → ']' ∉ endpoint.host.toList
  port : endpoint.port ≠ 0

def choosePort (fallback : UInt16) : Option (List Char) → Option UInt16
  | none => some fallback
  | some text => readPort text

theorem parse?_of_split {host : List Char} {port : Option (List Char)} {fallback : UInt16}
    (split : splitHost (Text.trimBlanks text) = some (host, port)) :
    parse? text fallback =
      if isHost host then (choosePort fallback port).map fun port => ⟨String.ofList host, port⟩
      else none := by
  unfold parse?
  rw [split]
  cases named : isHost host with
  | false => simp [named]
  | true =>
      cases port with
      | none => simp [guard, named, choosePort]
      | some text => cases read : readPort text <;> simp [guard, named, choosePort, read]

theorem accepted_of_parse {text : String} {fallback : UInt16} {endpoint : Endpoint}
    (provided : fallback ≠ 0) (parsed : parse text fallback = .ok endpoint) :
    endpoint.Accepted := by
  have read : parse? text.toList fallback = some endpoint := by
    unfold parse at parsed
    split at parsed
    · rename_i found
      cases parsed
      exact found
    · cases parsed
  cases split : splitHost (Text.trimBlanks text.toList) with
  | none =>
      unfold parse? at read
      rw [split] at read
      cases read
  | some parts =>
      obtain ⟨host, port⟩ := parts
      rw [parse?_of_split split] at read
      split at read
      · rename_i named
        obtain ⟨chosen, chooses, rfl⟩ := Option.map_eq_some_iff.mp read
        constructor
        · rw [String.toList_ofList]
          exact named
        · rw [String.toList_ofList]
          exact splitHost_bracket split
        · cases port with
          | none =>
              cases chooses
              exact provided
          | some port => exact readPort_ne_zero chooses
      · cases read

/-- Writing and reading agree on a host: brackets are put around it and the first one that closes
is behind it, or none are put around it and it does not begin with one. -/
def Legible (host : String) : Prop :=
  if ':' ∈ host.toList then ']' ∉ host.toList else host.toList.head? ≠ some '['

instance (host : String) : Decidable (Legible host) :=
  inferInstanceAs (Decidable
    (if ':' ∈ host.toList then ']' ∉ host.toList else host.toList.head? ≠ some '['))

theorem toList_render (endpoint : Endpoint) :
    endpoint.render.toList =
      if ':' ∈ endpoint.host.toList then
        '[' :: endpoint.host.toList ++ ']' :: ':' :: portText endpoint.port
      else endpoint.host.toList ++ ':' :: portText endpoint.port := by
  unfold render portText
  simp only [List.contains_iff_mem]
  split <;> simp [toString]

namespace Accepted

variable {endpoint : Endpoint}

theorem plain (accepted : endpoint.Accepted) :
    endpoint.render.toList.any Text.isBlank = false := by
  obtain ⟨named, _, _⟩ := accepted
  have host : endpoint.host.toList.any Text.isBlank = false := by
    unfold isHost at named
    simpa using (Bool.and_eq_true_iff.mp named).2
  have port : (portText endpoint.port).any Text.isBlank = false := by
    rw [List.any_eq_false]
    intro char among
    rw [Text.isBlank_of_isDigit (isDigit_portText among)]
    exact Bool.false_ne_true
  have opening : Text.isBlank '[' = false := by decide
  have closing : Text.isBlank ']' = false := by decide
  have colon : Text.isBlank ':' = false := by decide
  rw [toList_render]
  split <;> simp [List.any_append, host, port, opening, closing, colon]

theorem host_ne_nil (accepted : endpoint.Accepted) : endpoint.host.toList ≠ [] := by
  intro nothing
  have named := accepted.named
  rw [nothing] at named
  cases named

theorem split_of_legible (accepted : endpoint.Accepted) (legible : Legible endpoint.host) :
    splitHost endpoint.render.toList =
      some (endpoint.host.toList, some (portText endpoint.port)) := by
  rw [toList_render]
  unfold Legible at legible
  split at legible
  · rename_i colon
    rw [if_pos colon, List.cons_append, splitHost, splitAtFirst_append legible]
    rfl
  · rename_i plain
    rw [if_neg plain]
    refine splitHost_of_port ?_ (splitAtFirst_append plain) (absent_portText _ (by decide))
    rwa [List.head?_append_of_ne_nil _ accepted.host_ne_nil]

theorem parse?_of_legible (accepted : endpoint.Accepted) (legible : Legible endpoint.host)
    (fallback : UInt16) : parse? endpoint.render.toList fallback = some endpoint := by
  have split : splitHost (Text.trimBlanks endpoint.render.toList) =
      some (endpoint.host.toList, some (portText endpoint.port)) := by
    rw [Text.trimBlanks_of_plain accepted.plain, accepted.split_of_legible legible]
  rw [parse?_of_split split, if_pos accepted.named, choosePort, readPort_portText accepted.port,
    String.ofList_toList]
  rfl

/-- The bracket that is taken for the closing one leaves another one to the port. -/
theorem split_of_illegible (accepted : endpoint.Accepted) (illegible : ¬ Legible endpoint.host) :
    splitHost endpoint.render.toList = none ∨
      ∃ host port, splitHost endpoint.render.toList = some (host, some port) ∧ ']' ∈ port := by
  rw [toList_render]
  unfold Legible at illegible
  split at illegible
  · rename_i colon
    obtain ⟨before, behind, host, absent⟩ :=
      List.eq_append_cons_of_mem (Decidable.not_not.mp illegible)
    rw [if_pos colon, List.cons_append, host, List.append_assoc, List.cons_append]
    cases behind with
    | nil =>
        left
        exact (splitHost_of_closed (splitAtFirst_append absent)).trans (if_neg (by decide))
    | cons char behind =>
        rw [List.cons_append, splitHost_of_closed (splitAtFirst_append absent)]
        by_cases again : char = ':'
        · right
          rw [if_pos again]
          exact ⟨_, _, rfl, List.mem_append_right _ List.mem_cons_self⟩
        · left
          exact if_neg again
  · rename_i plain
    have opens := Decidable.not_not.mp illegible
    have unclosed := accepted.bracket opens
    obtain ⟨rest, host⟩ := List.head?_eq_some_iff.mp opens
    left
    rw [if_neg plain, host, List.cons_append]
    rw [host] at unclosed
    refine splitHost_of_unclosed ?_
    simp only [List.mem_append, List.mem_cons, not_or]
    refine ⟨?_, by decide, absent_portText _ (by decide)⟩
    exact fun later => unclosed (List.mem_cons_of_mem _ later)

theorem parse?_of_illegible (accepted : endpoint.Accepted) (illegible : ¬ Legible endpoint.host)
    (fallback : UInt16) : parse? endpoint.render.toList fallback = none := by
  have trimmed := Text.trimBlanks_of_plain accepted.plain
  rcases accepted.split_of_illegible illegible with unsplit | ⟨host, port, split, bracket⟩
  · unfold parse?
    rw [trimmed, unsplit]
    rfl
  · rw [← trimmed] at split
    rw [parse?_of_split split, choosePort, readPort_of_bracket bracket]
    split <;> rfl

end Accepted

/-- The text of an endpoint that was read is read as that endpoint again if writing and reading
agree on its host, and is refused otherwise; no other endpoint is ever read. -/
theorem parse_render {text : String} {fallback : UInt16} {endpoint : Endpoint}
    (provided : fallback ≠ 0) (parsed : parse text fallback = .ok endpoint) (other : UInt16) :
    parse endpoint.render other =
      if Legible endpoint.host then .ok endpoint else .error ⟨endpoint.render⟩ := by
  have accepted := accepted_of_parse provided parsed
  unfold parse
  by_cases legible : Legible endpoint.host
  · rw [if_pos legible, accepted.parse?_of_legible legible]
  · rw [if_neg legible, accepted.parse?_of_illegible legible]

theorem parse_render_literal :
    (6379 : UInt16) ≠ 0 ∧ parse " ::1 " 6379 = .ok ⟨"::1", 6379⟩ ∧
      parse (Endpoint.render ⟨"::1", 6379⟩) 7000 = .ok ⟨"::1", 6379⟩ := by
  have provided : (6379 : UInt16) ≠ 0 := by decide
  have parsed : parse " ::1 " 6379 = .ok ⟨"::1", 6379⟩ := by decide
  exact ⟨provided, parsed, (parse_render provided parsed 7000).trans (if_pos (by decide))⟩

/-- A host that begins with a bracket is written without brackets, and then read as a bracketed
one that is not closed. -/
theorem parse_render_refused :
    parse "[[a]" 6379 = .ok ⟨"[a", 6379⟩ ∧ Endpoint.render ⟨"[a", 6379⟩ = "[a:6379" ∧
      parse "[a:6379" 6379 = .error ⟨"[a:6379"⟩ := by
  refine ⟨?_, ?_, ?_⟩ <;> decide

end Endpoint

end Fanout
