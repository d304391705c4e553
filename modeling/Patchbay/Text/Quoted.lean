import Patchbay.Text.Digits
import Patchbay.Text.Hidden

/-!
# Characters and texts in quotes

Messages about a single character show it between apostrophes, so that a tab, a NUL or a
combining accent can be recognised.  The log shows texts between double quotes in the same way.
-/

namespace Patchbay.Text

/-- How a character is written between two of the given quotes. -/
def escaped (quote c : Char) : String :=
  if c == '\x00' then "\\0"
  else if c == '\t' then "\\t"
  else if c == '\r' then "\\r"
  else if c == '\n' then "\\n"
  else if c == quote || c == '\\' then "\\" ++ c.toString
  else if isHidden c then "\\u\x7b" ++ hexadecimal c.toNat ++ "\x7d"
  else c.toString

/-- A character between apostrophes. -/
def quotedChar (c : Char) : String :=
  "'" ++ escaped '\'' c ++ "'"

/-- A text between double quotes. -/
def quotedText (s : String) : String :=
  "\"" ++ String.join (s.toList.map (escaped '"')) ++ "\""

end Patchbay.Text
