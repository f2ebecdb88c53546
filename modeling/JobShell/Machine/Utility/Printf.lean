/-
Module: JobShell.Machine.Utility.Printf
Purpose: Printing in a format, for the printing program and for the command of scripts.  The format is
  used again until the arguments are used up; an argument that is missing counts as empty.
Main exports: PrintDialect, PrintEvent, PrintRun, printFormat
-/
import JobShell.Machine.Utility.Escapes
import JobShell.Machine.Utility.FloatValue
import JobShell.Machine.Utility.Quoting

namespace JobShell.Machine.Utility

/-- Who prints: the program, or the command of scripts. -/
inductive PrintDialect where
  | program
  | script
deriving Repr, DecidableEq

/-- Something that printing brings about, in order. -/
inductive PrintEvent where
  | text (chars : List Char)
  | complaint (chars : List Char)
deriving Repr, Inhabited, DecidableEq

/-- A run of printing: its events, the last one first, whether an argument was bad, the arguments that
are left, and how it was cut short, if it was: with a complaint or without. -/
structure PrintRun where
  events : List PrintEvent := []
  failed : Bool := false
  arguments : List (List Char)
  cut : Option (Option (List Char)) := none
deriving Repr, Inhabited

namespace PrintRun

/-- Prints characters. -/
def say (r : PrintRun) (chars : List Char) : PrintRun :=
  { r with events := .text chars :: r.events }

/-- Complains. -/
def warn (r : PrintRun) (chars : List Char) : PrintRun :=
  { r with events := .complaint chars :: r.events }

/-- Complains about an argument, which makes the run a failure. -/
def fault (r : PrintRun) (chars : List Char) : PrintRun :=
  { r.warn chars with failed := true }

/-- Ends the run with a complaint. -/
def die (r : PrintRun) (chars : List Char) : PrintRun :=
  { r with cut := some (some chars) }

/-- The next argument, if there is one. -/
def next (r : PrintRun) : Option (List Char) × PrintRun :=
  (r.arguments.head?, { r with arguments := r.arguments.tail })

end PrintRun

namespace PrintDialect

/-- The dialect of escapes in a format. -/
def formatEscapes : PrintDialect → EscapeDialect
  | program => .format
  | script => .scriptFormat

/-- The dialect of escapes in an argument. -/
def argumentEscapes : PrintDialect → EscapeDialect
  | program => .argument
  | script => .scriptArgument

/-- The format of numbers with a binary point. -/
def floats : PrintDialect → FloatFormat
  | program => .extended
  | script => .double

/-- An argument as a complaint shows it. -/
def shown : PrintDialect → List Char → List Char
  | program, word => quotedChars word
  | script, word => word

end PrintDialect

/-!
## Arguments as numbers
-/

/-- What is said of a number that does not fit. -/
def outOfRange : List Char :=
  "Numerical result out of range".toList

/-- Checks how a number ended: text after it is a fault, and so is a number that does not fit. -/
def checkNumber (d : PrintDialect) (word : List Char) (found unfit : Bool) (rest : List Char)
    (r : PrintRun) : PrintRun :=
  let told (text : String) : PrintRun := r.fault (d.shown word ++ ": ".toList ++ text.toList)
  let range : PrintRun := r.fault (d.shown word ++ ": ".toList ++ outOfRange)
  if unfit && (d = .program || rest.isEmpty) then range
  else if rest.isEmpty then r
  else if found then
    told (if d = .program then "value not completely converted" else "not completely converted")
  else told (if d = .program then "expected a numeric value" else "expected numeric value")

/-- The code of a character that follows a quote, if an argument starts with one. -/
def quotedCode? (d : PrintDialect) (word : List Char) : Option (Nat × List Char) :=
  match word with
  | q :: rest =>
      if q != '"' && q != '\'' then none
      else
        match rest with
        | c :: more => some (c.toNat, more)
        | [] => if d = .program then none else some (0, [])
  | [] => none

/-- Warns of text after the character that follows a quote; scripts do not. -/
def warnTrailing (d : PrintDialect) (rest : List Char) (r : PrintRun) : PrintRun :=
  if d = .program && !rest.isEmpty then
    r.warn ("warning: ".toList ++ rest ++
      ": character(s) following character constant have been ignored".toList)
  else r

/-- An argument as a signed number. -/
def signedArgument (d : PrintDialect) (word : List Char) (r : PrintRun) : Int × PrintRun :=
  match quotedCode? d word with
  | some (code, rest) => (code, warnTrailing d rest r)
  | none =>
      match readInteger true word with
      | none => (0, checkNumber d word false false word r)
      | some n =>
          let (value, unfit) := clampWord n.value
          (value, checkNumber d word true unfit n.rest r)

/-- An argument as an unsigned number. -/
def unsignedArgument (d : PrintDialect) (word : List Char) (r : PrintRun) : Nat × PrintRun :=
  match quotedCode? d word with
  | some (code, rest) => (code, warnTrailing d rest r)
  | none =>
      match readInteger true word with
      | none => (0, checkNumber d word false false word r)
      | some n =>
          let (value, unfit) := unsignedWord n
          (value, checkNumber d word true unfit n.rest r)

/-- An argument as a number with a binary point. -/
def floatArgument (d : PrintDialect) (word : List Char) (r : PrintRun) : FloatValue × PrintRun :=
  match quotedCode? d word with
  | some (code, rest) => (.finite false code 0, warnTrailing d rest r)
  | none =>
      match d.floats.read word with
      | none => (.finite false 0 0, checkNumber d word false false word r)
      | some ((value, unfit), rest) => (value, checkNumber d word true unfit rest r)

/-!
## Conversions
-/

/-- The flags of a layout. -/
def layoutOf (flags : List Char) : Layout :=
  { left := flags.contains '-'
    plus := flags.contains '+'
    blank := flags.contains ' '
    alternate := flags.contains '#'
    zero := flags.contains '0' }

/-- Whether a character is a flag. -/
def isFlag (d : PrintDialect) (c : Char) : Bool :=
  ['-', '+', ' ', '#', '0'].contains c || (d = .program && (c == '\'' || c == 'I'))

/-- Whether the program allows a conversion letter after flags, with a precision or without. -/
def isAllowed (flags : List Char) (hasPrecision : Bool) (letter : Char) : Bool :=
  let forbidden :=
    flags.flatMap fun f =>
      match f with
      | '\'' | 'I' => ['a', 'A', 'c', 'e', 'E', 'o', 's', 'x', 'X']
      | '#' => ['c', 'd', 'i', 's', 'u']
      | '0' => ['c', 's']
      | _ => []
  ['a', 'A', 'c', 'd', 'e', 'E', 'f', 'F', 'g', 'G', 'i', 'o', 's', 'u', 'x', 'X'].contains letter &&
    !forbidden.contains letter && !(hasPrecision && letter == 'c')

/-- The largest number that a width or a precision may be. -/
def largestWidth : Int := 2147483647

/-- A number as a word of thirty-two bits keeps it. -/
def wrapWidth (n : Int) : Int :=
  n.bmod 4294967296

/-- A width: digits, or an argument, which asks for the left side if it is negative.  Scripts keep the lowest
bits of one that is too large. -/
def readWidth (d : PrintDialect) (text : List Char) (l : Layout) (r : PrintRun) :
    Layout × List Char × PrintRun :=
  match text with
  | '*' :: rest =>
      match r.next with
      | (none, r') => (l, rest, r')
      | (some word, r') =>
          let (given, r'') := signedArgument d word r'
          let value := if d = .program then given else wrapWidth given
          if largestWidth < value || value < -largestWidth - 1 then
            (l, rest, r''.die ("invalid field width: ".toList ++ d.shown word))
          else ({ l with width := value.natAbs, left := l.left || value < 0 }, rest, r'')
  | _ =>
      let (digits, rest) := readDigits 10 text
      ({ l with width := digitsValue 10 digits }, rest, r)

/-- A precision after its point: digits, or an argument, which does not count if it is negative. -/
def readPrecision (d : PrintDialect) (text : List Char) (l : Layout) (r : PrintRun) :
    Layout × List Char × PrintRun :=
  match text with
  | '.' :: '*' :: rest =>
      match r.next with
      | (none, r') => ({ l with precision := some 0 }, rest, r')
      | (some word, r') =>
          let (given, r'') := signedArgument d word r'
          let value := if d = .program then given else wrapWidth given
          if largestWidth < value then
            (l, rest, r''.die ("invalid precision: ".toList ++ d.shown word))
          else ({ l with precision := if value < 0 then none else some value.toNat }, rest, r'')
  | '.' :: rest =>
      let (digits, rest') := readDigits 10 rest
      ({ l with precision := some (digitsValue 10 digits) }, rest', r)
  | _ => (l, text, r)

/-- The letters that may stand in front of a conversion letter without meaning anything. -/
def isSizeLetter (c : Char) : Bool :=
  ['l', 'L', 'h', 'j', 't', 'z'].contains c

/-- Prints an argument with its escapes replaced. -/
def printEscaped (d : PrintDialect) (l : Layout) (word : List Char) (r : PrintRun) : PrintRun :=
  let (text, ending) := unescape d.argumentEscapes word
  let said := r.say (l.text text)
  match ending with
  | none | some (.produces _) => said
  | some .stops => { said with cut := some none }
  | some (.mistake reason) => said.die reason

/-- Prints the next argument by a conversion letter. -/
def printArgument (d : PrintDialect) (l : Layout) (letter : Char) (r : PrintRun) : PrintRun :=
  let (argument, r') := r.next
  let word := argument.getD []
  match letter with
  | 's' => r'.say (l.text word)
  | 'b' => printEscaped d l word r'
  | 'c' => r'.say (({ l with precision := none } : Layout).text [word.headD '\x00'])
  | 'd' | 'i' =>
      let (value, r'') := signedArgument d word r'
      r''.say (l.integer value)
  | 'u' | 'o' | 'x' | 'X' =>
      let (value, r'') := unsignedArgument d word r'
      let base := if letter = 'u' then 10 else if letter = 'o' then 8 else 16
      r''.say (l.natural base (letter == 'X') value)
  | _ =>
      let (value, r'') := floatArgument d word r'
      r''.say (value.print d.floats l letter)

/-- Prints by a conversion, which is read after its percent sign; gives the rest of the format too. -/
def printConversion (d : PrintDialect) (text : List Char) (r : PrintRun) : PrintRun × List Char :=
  let flags := text.takeWhile (isFlag d)
  let (wide, afterWidth, r) := readWidth d (text.drop flags.length) (layoutOf flags) r
  let hasPrecision := afterWidth.head? == some '.'
  let (l, afterPrecision, r) := readPrecision d afterWidth wide r
  let rest := if d = .program then afterPrecision.dropWhile isSizeLetter else afterPrecision
  let spelled := '%' :: text.take (text.length - rest.length + 1)
  if r.cut.isSome then (r, [])
  else
    match rest with
    | [] =>
        (r.die (if d = .program then spelled ++ ": invalid conversion specification".toList
          else "missing format character".toList), [])
    | letter :: more =>
        if d = .program then
          if isAllowed flags hasPrecision letter then (printArgument d l letter r, more)
          else (r.die (spelled ++ ": invalid conversion specification".toList), [])
        else if letter == 'b' || isAllowed [] false letter then (printArgument d l letter r, more)
        else (r.die (spelled ++ ": invalid directive".toList), [])

/-- Prints the next argument as a command interpreter would read it back. -/
def printQuoted (r : PrintRun) : PrintRun :=
  match r.next with
  | (some word, r') => r'.say (if needsQuotes word then shellQuotedChars word else word)
  | (none, r') => r'

/-- Goes through a format once, in at most so many steps. -/
def printOnce (d : PrintDialect) : Nat → List Char → PrintRun → PrintRun
  | 0, _, r => r
  | _ + 1, [], r => r
  | fuel + 1, c :: rest, r =>
      if r.cut.isSome then r
      else if c = '\\' then
        match escapeAt d.formatEscapes rest with
        | (.produces chars, rest') => printOnce d fuel rest' (r.say chars)
        | (.stops, _) => { r with cut := some none }
        | (.mistake reason, _) => r.die reason
      else if c = '%' then
        match rest with
        | '%' :: rest' => printOnce d fuel rest' (r.say ['%'])
        | 'b' :: rest' => printOnce d fuel rest' (printArgument d {} 'b' r)
        | _ =>
            if d = .program && rest.head? = some 'q' then
              printOnce d fuel rest.tail (printQuoted r)
            else
              let (r', rest') := printConversion d rest r
              printOnce d fuel rest' r'
      else
        let plain := rest.takeWhile fun e => e != '\\' && e != '%'
        printOnce d fuel (rest.drop plain.length) (r.say (c :: plain))

/-- Goes through a format again and again, in at most so many rounds, as long as arguments are left and
each round takes some. -/
def printRounds (d : PrintDialect) (format : List Char) : Nat → PrintRun → PrintRun
  | 0, r => r
  | fuel + 1, r =>
      let done := printOnce d (format.length + 1) format r
      if done.cut.isSome || done.arguments.isEmpty ||
          done.arguments.length = r.arguments.length then done
      else printRounds d format fuel done

/-- Prints arguments in a format.  The program warns of arguments for which the format has no use. -/
def printFormat (d : PrintDialect) (format : List Char) (arguments : List (List Char)) : PrintRun :=
  let done := printRounds d format (arguments.length + 1) { arguments := arguments }
  match d, done.cut, done.arguments with
  | .program, none, word :: _ =>
      done.warn ("warning: ignoring excess arguments, starting with ".toList ++ quotedChars word)
  | _, _, _ => done

end JobShell.Machine.Utility
