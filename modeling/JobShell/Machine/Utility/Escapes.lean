/-
Module: JobShell.Machine.Utility.Escapes
Purpose: Backslash escapes in the texts that programs print, in the dialects of those programs, and the
  programs that print their words.
Main exports: EscapeDialect, Escape, escapeAt, unescape, echoText, scriptEchoText
-/
import JobShell.Machine.Utility.Numeral

namespace JobShell.Machine.Utility

/-- Where escapes are read: by the echo program, in a format or an argument of the printing program, and
in a format or an argument of the commands of scripts. -/
inductive EscapeDialect where
  | echo
  | format
  | argument
  | scriptFormat
  | scriptArgument
deriving Repr, DecidableEq

/-- What an escape comes to: characters, an end of all output, or a mistake. -/
inductive Escape where
  | produces (chars : List Char)
  | stops
  | mistake (text : List Char)
deriving Repr, Inhabited, DecidableEq

namespace EscapeDialect

/-- Whether a dialect belongs to scripts. -/
def isScript : EscapeDialect → Bool
  | scriptFormat | scriptArgument => true
  | _ => false

/-- The character that a letter after a backslash stands for. -/
def letter? (d : EscapeDialect) (c : Char) : Option Char :=
  match c with
  | 'a' => some '\x07'
  | 'b' => some '\x08'
  | 'f' => some '\x0c'
  | 'n' => some '\n'
  | 'r' => some '\r'
  | 't' => some '\t'
  | 'v' => some '\x0b'
  | '\\' => some '\\'
  | 'e' => some '\x1b'
  | '"' => if d = format || d = argument then some '"' else none
  | _ => none

/-- Whether a letter puts an end to the output. -/
def stopsAt (d : EscapeDialect) (c : Char) : Bool :=
  c == 'c' && d != scriptFormat

/-- Whether a zero in front of octal digits does not count among them. -/
def skipsZero : EscapeDialect → Bool
  | echo | argument | scriptArgument => true
  | _ => false

end EscapeDialect

/-- A character for a number, of which only the lowest eight bits count. -/
def byteChar (n : Nat) : Char :=
  Char.ofNat (n % 256)

/-- An escape of up to three octal digits, and what follows it. -/
def octalEscapeAt (text : List Char) : Escape × List Char :=
  let digits := (text.take 3).takeWhile (isDigitIn 8)
  (.produces [byteChar (digitsValue 8 digits)], text.drop digits.length)

/-- The character of a code point, as a text that knows only the first hundred and twenty-eight of them
shows it. -/
def codePointText (code : Nat) : List Char :=
  if code < 128 then [Char.ofNat code]
  else
    let digits := (Nat.toDigits 16 code).map Char.toUpper
    let width := if code < 65536 then 4 else 8
    '\\' :: (if code < 65536 then 'u' else 'U') ::
      (List.replicate (width - digits.length) '0' ++ digits)

/-- What is wrong with an escape in base sixteen that lacks digits. -/
def missingDigits : List Char :=
  "missing hexadecimal number in escape".toList

/-- Whether an escape may name a code point: not a control character, not one of the characters that any
text can hold as they are, and not half a character. -/
def isNameable (code : Nat) : Bool :=
  if code ≤ 0x9f then [0x24, 0x40, 0x60].contains code else !(0xd800 ≤ code && code ≤ 0xdfff)

/-- An escape that names a code point. -/
def codePointAt (mark : Char) (text : List Char) : Escape × List Char :=
  let width := if mark = 'u' then 4 else 8
  let digits := (text.take width).takeWhile (isDigitIn 16)
  if digits.length < width then (.mistake missingDigits, [])
  else
    let code := digitsValue 16 digits
    if !isNameable code then
      (.mistake ("invalid universal character name \\".toList ++ mark :: digits.map Char.toLower), [])
    else (.produces (codePointText code), text.drop width)

/-- The escape that stands after a backslash, and what follows it. -/
def escapeAt (d : EscapeDialect) (text : List Char) : Escape × List Char :=
  match text with
  | [] => (.produces ['\\'], [])
  | c :: rest =>
      if d.stopsAt c then (.stops, [])
      else
        match d.letter? c with
        | some e => (.produces [e], rest)
        | none =>
            if isDigitIn 8 c then
              if c = '0' && d.skipsZero && (!d.isScript || rest.head?.any (isDigitIn 8)) then
                octalEscapeAt rest
              else octalEscapeAt text
            else if d.isScript then (.produces ['\\'], text)
            else if c = 'x' then
              let digits := (rest.take 2).takeWhile (isDigitIn 16)
              if !digits.isEmpty then
                (.produces [byteChar (digitsValue 16 digits)], rest.drop digits.length)
              else if d = .echo then (.produces ['\\', 'x'], rest)
              else (.mistake missingDigits, [])
            else if (c = 'u' || c = 'U') && d ≠ .echo then codePointAt c rest
            else (.produces ['\\', c], rest)

/-- A text with its escapes replaced, in at most so many steps, and how it ended if not at its end. -/
def unescapeWithin (d : EscapeDialect) : Nat → List Char → List Char × Option Escape
  | 0, _ => ([], none)
  | _ + 1, [] => ([], none)
  | fuel + 1, c :: rest =>
      if c = '\\' then
        match escapeAt d rest with
        | (.produces chars, rest') =>
            let (others, ending) := unescapeWithin d fuel rest'
            (chars ++ others, ending)
        | (ending, _) => ([], some ending)
      else
        let (others, ending) := unescapeWithin d fuel rest
        (c :: others, ending)

/-- A text with its escapes replaced, and how it ended if not at its end. -/
def unescape (d : EscapeDialect) (text : List Char) : List Char × Option Escape :=
  unescapeWithin d (text.length + 1) text

/-- Words with single spaces between them. -/
def joinWords : List (List Char) → List Char
  | [] => []
  | [w] => w
  | w :: rest => w ++ ' ' :: joinWords rest

/-- Options of the echo program: letters for "no line end" and for escapes on or off. -/
def isEchoOption (word : List Char) : Bool :=
  match word with
  | '-' :: c :: rest => (c :: rest).all fun d => d == 'n' || d == 'e' || d == 'E'
  | _ => false

/-- What the echo program prints for its arguments.  If it is strict, escapes are always replaced, and there
are no options unless the first of them is the one for no line end. -/
def echoText (strict : Bool) (arguments : List (List Char)) : List Char :=
  let (front, others) :=
    if strict && arguments.head? ≠ some ['-', 'n'] then ([], arguments)
    else (arguments.takeWhile isEchoOption, arguments.dropWhile isEchoOption)
  let options := front.flatten
  let words := joinWords others
  let escapes := strict || ((options.filter fun c => c == 'e' || c == 'E').getLast?) == some 'e'
  let (text, ending) := if escapes then unescape .echo words else (words, none)
  if ending.isSome || options.contains 'n' then text else text ++ ['\n']

/-- What the echo command of scripts prints: escapes are always replaced. -/
def scriptEchoText (arguments : List (List Char)) : List Char :=
  let (silent, words) := match arguments with
    | ['-', 'n'] :: rest => (true, rest)
    | words => (false, words)
  let (text, ending) := unescape .scriptArgument (joinWords words)
  if ending.isSome || silent then text else text ++ ['\n']

end JobShell.Machine.Utility
