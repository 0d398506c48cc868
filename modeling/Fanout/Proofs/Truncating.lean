import Mathlib.Order.Bounds.Basic
import Fanout.Proofs.Addressing
import Fanout.Text.Truncation

/-!
Cutting a text to a number of bytes. One can also go back from the largest size, byte by byte, until
no character goes on there. That looks at one byte at a time, and could step below zero or cut a
character in two; it does neither, and leaves the longest beginning that fits, as the scan from the
front does.
-/

set_option autoImplicit false

namespace Fanout.Text

/-! ### Going back byte by byte -/

inductive CutFault where
  | belowZero
  | insideCharacter
  deriving DecidableEq, Repr

def isLead (byte : UInt8) : Bool := byte < 0x80 || 0xC0 ≤ byte

def isBoundary (bytes : ByteArray) (offset : Nat) : Bool :=
  if offset = 0 then true
  else if inside : offset < bytes.size then isLead bytes[offset]
  else offset = bytes.size

def stepBack (bytes : ByteArray) : Nat → Except CutFault Nat
  | 0 => if isBoundary bytes 0 then .ok 0 else .error .belowZero
  | offset + 1 =>
      if isBoundary bytes (offset + 1) then .ok (offset + 1) else stepBack bytes offset

def cutAt (bytes : ByteArray) (offset : Nat) : Except CutFault ByteArray :=
  if isBoundary bytes offset then .ok (bytes.extract 0 offset) else .error .insideCharacter

def cutBack (bytes : ByteArray) (largest : Nat) : Except CutFault ByteArray :=
  if bytes.size ≤ largest then .ok bytes else stepBack bytes largest >>= cutAt bytes

/-! ### The longest fit -/

structure LongestFit (text : String) (largest : Nat) (cut : String) : Prop where
  beginning : ∃ rest, text = cut ++ rest
  fits : cut.utf8ByteSize ≤ largest
  longest : ∀ front rest, text = front ++ rest → front.utf8ByteSize ≤ largest →
    front.utf8ByteSize ≤ cut.utf8ByteSize

variable {text cut other : String} {largest offset : Nat}

theorem extract_toUTF8 (front rest : String) :
    (front ++ rest).toUTF8.extract 0 front.utf8ByteSize = front.toUTF8 := by
  change (front ++ rest).toByteArray.extract 0 _ = _
  rw [String.toByteArray_append]
  exact ByteArray.extract_append_eq_left rfl

theorem LongestFit.unique (one : LongestFit text largest cut)
    (two : LongestFit text largest other) : cut = other := by
  obtain ⟨rest, same⟩ := one.beginning
  obtain ⟨rest', same'⟩ := two.beginning
  have sizes : cut.utf8ByteSize = other.utf8ByteSize :=
    Nat.le_antisymm (two.longest cut rest same one.fits) (one.longest other rest' same' two.fits)
  apply String.toByteArray_inj.mp
  have bytes := extract_toUTF8 cut rest
  have bytes' := extract_toUTF8 other rest'
  rw [← same, sizes, same', bytes'] at bytes
  exact bytes.symm

theorem longestFit_self (fits : text.utf8ByteSize ≤ largest) : LongestFit text largest text := by
  refine ⟨⟨"", String.append_empty.symm⟩, fits, ?_⟩
  rintro front rest rfl _
  rw [String.utf8ByteSize_append]
  exact Nat.le_add_right _ _

/-! ### Cutting character by character -/

theorem fitting_append {budget : Nat} (text : List Char) :
    ∃ rest, text = fitting budget text ++ rest := by
  fun_induction fitting budget text with
  | case1 budget => exact ⟨[], rfl⟩
  | case2 budget char others fits ih =>
      obtain ⟨rest, same⟩ := ih
      exact ⟨rest, congrArg (char :: ·) same⟩
  | case3 budget char others large => exact ⟨char :: others, rfl⟩

theorem fitting_le (budget : Nat) (text : List Char) :
    String.utf8Len (fitting budget text) ≤ budget := by
  fun_induction fitting budget text with
  | case1 budget => exact Nat.zero_le _
  | case2 budget char others fits ih =>
      rw [String.utf8Len_cons]
      omega
  | case3 budget char others large => exact Nat.zero_le _

theorem fitting_longest {budget : Nat} {text front rest : List Char} (whole : text = front ++ rest)
    (fits : String.utf8Len front ≤ budget) :
    String.utf8Len front ≤ String.utf8Len (fitting budget text) := by
  fun_induction fitting budget text generalizing front with
  | case1 budget =>
      rw [(List.append_eq_nil_iff.mp whole.symm).1]
  | case2 budget char others small ih =>
      cases front with
      | nil => exact Nat.zero_le _
      | cons first front =>
          obtain ⟨rfl, behind⟩ := List.cons_eq_cons.mp whole
          rw [String.utf8Len_cons] at fits
          have shorter := ih behind (by omega)
          rw [String.utf8Len_cons, String.utf8Len_cons]
          omega
  | case3 budget char others large =>
      cases front with
      | nil => exact Nat.zero_le _
      | cons first front =>
          obtain ⟨rfl, _⟩ := List.cons_eq_cons.mp whole
          rw [String.utf8Len_cons] at fits
          omega

theorem truncate_longestFit (text : String) (largest : Nat) :
    LongestFit text largest (truncate text largest) := by
  obtain ⟨rest, same⟩ := @fitting_append largest text.toList
  unfold truncate
  refine ⟨⟨String.ofList rest, ?_⟩, ?_, ?_⟩
  · rw [← String.ofList_append, ← same, String.ofList_toList]
  · rw [String.utf8ByteSize_ofList]
    exact fitting_le largest text.toList
  · rintro front rest rfl fits
    have length : front.utf8ByteSize = String.utf8Len front.toList := by
      rw [← String.utf8ByteSize_ofList, String.ofList_toList]
    rw [String.utf8ByteSize_ofList]
    rw [length] at fits ⊢
    exact fitting_longest String.toList_append fits

theorem longestFit_iff : LongestFit text largest cut ↔ cut = truncate text largest := by
  constructor
  · exact fun fit => fit.unique (truncate_longestFit text largest)
  · rintro rfl
    exact truncate_longestFit text largest

/-! ### Both ways are the same -/

theorem small_of_mem (char : Char) :
    ∀ byte ∈ String.utf8EncodeChar char, ∃ value < 0xF8, byte = UInt8.ofNat value := by
  intro byte
  fun_cases String.utf8EncodeChar char with
  | case1 value one =>
      intro member
      obtain rfl := List.mem_singleton.mp member
      exact ⟨value, by omega, rfl⟩
  | case2 value more two =>
      simp only [List.mem_cons, List.not_mem_nil, or_false]
      rintro (rfl | rfl) <;> exact ⟨_, by omega, rfl⟩
  | case3 value more many three =>
      simp only [List.mem_cons, List.not_mem_nil, or_false]
      rintro (rfl | rfl | rfl) <;> exact ⟨_, by omega, rfl⟩
  | case4 value more many most =>
      simp only [List.mem_cons, List.not_mem_nil, or_false]
      rintro (rfl | rfl | rfl | rfl) <;> exact ⟨_, by omega, rfl⟩

/-- The bytes of a text that do not go on with a character begin one. -/
theorem isLead_iff (inside : offset < text.toUTF8.size) :
    isLead text.toUTF8[offset] = true ↔ (text.toUTF8[offset]).IsUTF8FirstByte := by
  have all : ∀ value < 0xF8, isLead (UInt8.ofNat value) = true ↔
      (UInt8.ofNat value).IsUTF8FirstByte := by
    decide +kernel
  have member : text.toUTF8[offset] ∈ text.toList.flatMap String.utf8EncodeChar := by
    rw [← utf8_ofList, String.ofList_toList]
    exact Array.mem_toList_iff.mpr (Array.getElem_mem inside)
  obtain ⟨char, _, encodes⟩ := List.mem_flatMap.mp member
  obtain ⟨value, small, same⟩ := small_of_mem char _ encodes
  rw [same]
  exact all value small

theorem isBoundary_iff : isBoundary text.toUTF8 offset = true ↔
    ∃ front rest, text = front ++ rest ∧ offset = front.utf8ByteSize := by
  have splits : (∃ front rest, text = front ++ rest ∧ offset = front.utf8ByteSize) ↔
      String.Pos.Raw.IsValid text ⟨offset⟩ := by
    rw [String.Pos.Raw.isValid_iff_exists_append]
    simp only [String.Pos.Raw.ext_iff, String.byteIdx_rawEndPos]
  have size : text.rawEndPos.byteIdx = text.toUTF8.size := rfl
  rw [splits]
  unfold isBoundary
  by_cases first : offset = 0
  · subst first
    simp
  · rw [if_neg first, String.Pos.Raw.isValid_iff_isUTF8FirstByte]
    by_cases inside : offset < text.toUTF8.size
    · rw [dif_pos inside, isLead_iff inside]
      constructor
      · exact fun begins => .inr ⟨inside, begins⟩
      · rintro (last | ⟨_, begins⟩)
        · have ends := congrArg String.Pos.Raw.byteIdx last
          dsimp only at ends
          omega
        · exact begins
    · rw [dif_neg inside, decide_eq_true_eq]
      constructor
      · rintro rfl
        exact .inl rfl
      · rintro (last | ⟨before, _⟩)
        · exact congrArg String.Pos.Raw.byteIdx last
        · exact absurd before inside

theorem stepBack_ok (bytes : ByteArray) (offset : Nat) :
    ∃ last, stepBack bytes offset = .ok last ∧
      IsGreatest {boundary | isBoundary bytes boundary = true ∧ boundary ≤ offset} last := by
  induction offset with
  | zero =>
      refine ⟨0, rfl, ⟨rfl, Nat.le_refl 0⟩, ?_⟩
      exact fun boundary within => within.2
  | succ offset ih =>
      unfold stepBack
      by_cases here : isBoundary bytes (offset + 1) = true
      · rw [if_pos here]
        exact ⟨offset + 1, rfl, ⟨here, Nat.le_refl _⟩, fun boundary within => within.2⟩
      · rw [if_neg here]
        obtain ⟨last, steps, ⟨boundary, within⟩, most⟩ := ih
        refine ⟨last, steps, ⟨boundary, Nat.le_succ_of_le within⟩, ?_⟩
        rintro other ⟨ends, inside⟩
        apply most
        refine ⟨ends, ?_⟩
        apply Nat.le_of_lt_succ
        apply Nat.lt_of_le_of_ne inside
        rintro rfl
        exact here ends

/-- Going back never fails, and leaves the same. -/
theorem cutBack_eq (text : String) (largest : Nat) :
    cutBack text.toUTF8 largest = .ok (truncate text largest).toUTF8 := by
  unfold cutBack
  by_cases whole : text.toUTF8.size ≤ largest
  · rw [if_pos whole]
    rw [← longestFit_iff.mp (longestFit_self whole)]
  · rw [if_neg whole]
    obtain ⟨last, steps, ⟨ends, within⟩, most⟩ := stepBack_ok text.toUTF8 largest
    obtain ⟨front, rest, rfl, rfl⟩ := isBoundary_iff.mp ends
    have fit : LongestFit (front ++ rest) largest front := by
      refine ⟨⟨rest, rfl⟩, within, ?_⟩
      intro other behind same fits
      exact most ⟨isBoundary_iff.mpr ⟨other, behind, same, rfl⟩, fits⟩
    rw [steps, ← longestFit_iff.mp fit]
    change cutAt _ _ = _
    rw [cutAt, if_pos ends, extract_toUTF8]

example : cutBack "aé€".toUTF8 5 = .ok "aé".toUTF8 := by decide +kernel

end Fanout.Text
