import Fanout.Text.Hex
import Fanout.Text.Hidden

/-!
Text in double quotes, for messages. Quotes, backslashes and whatever a reader could not see are
written as escapes.
-/

set_option autoImplicit false

namespace Fanout.Text

def escapeByCode (char : Char) : List Char :=
  "\\u\x7b".toList ++ Hex.lowerDigits char.toNat ++ ['\x7d']

def escape (char : Char) : List Char :=
  if char = '"' then ['\\', '"']
  else if char = '\\' then ['\\', '\\']
  else if char = '\t' then ['\\', 't']
  else if char = '\r' then ['\\', 'r']
  else if char = '\n' then ['\\', 'n']
  else if char.toNat = 0 then ['\\', '0']
  else if char.toNat < 0x20 then escapeByCode char
  else if char.toNat < 0x7F then [char]
  else if isHidden char then escapeByCode char
  else [char]

def quoted (text : String) : String :=
  String.ofList ('"' :: text.toList.flatMap escape ++ ['"'])

end Fanout.Text
