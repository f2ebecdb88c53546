/-
Module: JobShell.Text.Quoted
Purpose: Text shown inside double quotes, so that every character of it can be told apart.
Main exports: escape, quoted
-/
import JobShell.Text.Property.CombiningExtend
import JobShell.Text.Property.Invisible

namespace JobShell.Text

open Property

/-- The code point in lower-case hexadecimal between braces. -/
def codePointEscape (c : Char) : String :=
  "\\u\x7b" ++ String.ofList (Nat.toDigits 16 c.toNat) ++ "\x7d"

/-- The shown form of one character.  Zero, tab, line ends, the backslash and the double quote have
escapes of their own; a combining or invisible character is shown by its code point; any other
character stands for itself. -/
def escape (c : Char) : String :=
  if c = '\x00' then "\\0"
  else if c = '\t' then "\\t"
  else if c = '\r' then "\\r"
  else if c = '\n' then "\\n"
  else if c = '\\' then "\\\\"
  else if c = '"' then "\\\""
  else if ' ' ≤ c && c ≤ '~' then String.singleton c
  else if isCombining c || isInvisible c then codePointEscape c
  else String.singleton c

/-- A text between double quotes, each character in its shown form. -/
def quoted (text : String) : String :=
  "\"" ++ String.join (text.toList.map escape) ++ "\""

end JobShell.Text
