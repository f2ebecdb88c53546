/-
Module: JobShell.Machine.Utility.Quoting
Purpose: Words as programs show them in what they say: between single quotes with escapes, or in a form
  that a command interpreter would read back.
Main exports: inQuotes, shellQuoted, shellQuotedIfNeeded, octalEscape
-/
import JobShell.Machine.Characters

namespace JobShell.Machine.Utility

open Text (Bytes)

/-- Whether a character can be printed as it is. -/
def isPrintable (c : Char) : Bool :=
  32 ≤ c.toNat && c.toNat < 127

/-- The digit for a number below eight. -/
def octalDigit (n : Nat) : Char :=
  Char.ofNat ('0'.toNat + n % 8)

/-- The three octal digits of a byte. -/
def octalDigits (c : Char) : List Char :=
  [octalDigit (c.toNat / 64), octalDigit (c.toNat / 8), octalDigit c.toNat]

/-- The letter that stands for a control character after a backslash. -/
def controlLetter (c : Char) : Option Char :=
  match c.toNat with
  | 7 => some 'a'
  | 8 => some 'b'
  | 9 => some 't'
  | 10 => some 'n'
  | 11 => some 'v'
  | 12 => some 'f'
  | 13 => some 'r'
  | _ => none

/-- What stands after the backslash for a character that cannot be printed. -/
def octalEscape (c : Char) : List Char :=
  match controlLetter c with
  | some letter => [letter]
  | none => octalDigits c

/-- A word between single quotes.  A quote and a backslash in it get a backslash, and so does what cannot
be printed. -/
def quotedChars (word : List Char) : List Char :=
  let inside := word.flatMap fun c =>
    if c = '\'' || c = '\\' then ['\\', c]
    else if isPrintable c then [c]
    else '\\' :: octalEscape c
  '\'' :: inside ++ ['\'']

/-- A word between single quotes, for a message. -/
def inQuotes (word : Bytes) : Bytes :=
  bytesOf (quotedChars (charsOf word))

/-!
## Words for a command interpreter
-/

/-- The characters that mean something to a command interpreter wherever they stand. -/
def specialChars : List Char :=
  ['?', '\\', '\'', ' ', '!', '"', '$', '&', '(', ')', '*', ';', '<', '=', '>', '[', '^', '|',
    Char.ofNat 0x60]

/-- Whether a word would not be read back as it is.  Braces matter only by themselves, and two signs only
in front. -/
def needsQuotes (word : List Char) : Bool :=
  word.isEmpty || word.any (fun c => !isPrintable c || specialChars.contains c) ||
    word.head?.any (fun c => c == '#' || c == '~') || word == ['\x7b'] || word == ['\x7d']

/-- Whether a character at a place means the same between single and double quotes. -/
def isPlainInDouble (isFirst isOnly : Bool) (c : Char) : Bool :=
  if c = '\x7b' || c = '\x7d' then isOnly
  else if c = '#' || c = '~' then isFirst
  else c == ' ' || c == '\'' || (isPrintable c && !specialChars.contains c)

/-- Whether every character means the same between single and double quotes. -/
def allPlainInDouble (word : List Char) : Bool :=
  match word with
  | [] => true
  | [c] => isPlainInDouble true true c
  | c :: rest => isPlainInDouble true false c && rest.all (isPlainInDouble false false)

/-- The characters of a word after an opening single quote, up to the closing one.  What cannot be printed
stands in a stretch of its own, which `escaping` tells to be open. -/
def singleQuoted (escaping : Bool) : List Char → List Char
  | [] => ['\'']
  | c :: rest =>
      if c = '\'' then ['\'', '\\', '\'', '\''] ++ singleQuoted false rest
      else if isPrintable c then
        (if escaping then ['\'', '\''] else []) ++ c :: singleQuoted false rest
      else
        (if escaping then [] else ['\'', '$', '\'']) ++ '\\' :: octalEscape c ++
          singleQuoted true rest

/-- A word in quotes, as a command interpreter would read it back. -/
def shellQuotedChars (word : List Char) : List Char :=
  if word.contains '\'' && allPlainInDouble word then '"' :: word ++ ['"']
  else '\'' :: singleQuoted false word

/-- A word in quotes, for a message. -/
def shellQuoted (word : Bytes) : Bytes :=
  bytesOf (shellQuotedChars (charsOf word))

/-- A word in quotes if it needs them or holds a colon, for a message in which a colon follows it. -/
def shellQuotedIfNeeded (word : Bytes) : Bytes :=
  if needsQuotes (charsOf word) || (charsOf word).contains ':' then shellQuoted word else word

end JobShell.Machine.Utility
