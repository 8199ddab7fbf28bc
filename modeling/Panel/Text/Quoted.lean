import Panel.Text.GraphemeExtend
import Panel.Text.Unprintable

/-!
# Quoted text

A text in double quotes, with a backslash before whatever could not be read back from the page: the
quote and the backslash themselves, line breaks and tabs, and by code point every character that has
no printed form or merges with the one before it.
-/

namespace Panel.Text

/-- The characters that stand for `c` between quotes. -/
def escape (c : Char) : List Char :=
  if c = '"' then ['\\', '"']
  else if c = '\\' then ['\\', '\\']
  else if c = '\n' then ['\\', 'n']
  else if c = '\r' then ['\\', 'r']
  else if c = '\t' then ['\\', 't']
  else if c.toNat = 0 then ['\\', '0']
  else if isGraphemeExtend c || !isPrintable c then
    ['\\', 'u', '\x7b'] ++ Nat.toDigits 16 c.toNat ++ ['\x7d']
  else [c]

/-- A text in quotes. -/
def quoted (s : String) : String := String.ofList ('"' :: s.toList.flatMap escape ++ ['"'])

end Panel.Text
