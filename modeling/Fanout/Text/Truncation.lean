/-!
Cutting a text to a number of bytes. A character is kept whole or not at all.
-/

set_option autoImplicit false

namespace Fanout.Text

/-- The longest run of first characters that fits into `budget` bytes. -/
def fitting : Nat → List Char → List Char
  | _, [] => []
  | budget, char :: others =>
      if char.utf8Size ≤ budget then char :: fitting (budget - char.utf8Size) others else []

/-- The longest whole-character beginning of a text in at most `largest` bytes. -/
def truncate (text : String) (largest : Nat) : String :=
  String.ofList (fitting largest text.toList)

end Fanout.Text
