/-
Module: JobShell.Diagnostics.FieldPattern
Purpose: Which values a field may be compared with.  A value is a truth, a number, or a search pattern;
  patterns know alternatives, groups with names or flags, repetitions, bracket sets and escapes.  Classes
  of characters from the wide standard are not available, so patterns that need them are refused; so are
  patterns with a place between words in the sense of the wide standard, for another reason.
Main exports: isNumber, Fault, patternFault?, valueFault?
-/
import JobShell.Text.Blank
import JobShell.Text.Property.Numeric

namespace JobShell.Diagnostics.FieldPattern

/-!
## Numbers
-/

/-- What is left after a run of decimal digits, if there is at least one. -/
def afterDigits? (text : List Char) : Option (List Char) :=
  if text.head?.any Char.isDigit then some (text.dropWhile Char.isDigit) else none

/-- A text without a sign at its front. -/
def unsigned : List Char → List Char
  | '+' :: rest => rest
  | '-' :: rest => rest
  | text => text

/-- Whether a text is nothing, or an exponent. -/
def isExponent (text : List Char) : Bool :=
  match text with
  | [] => true
  | 'e' :: rest | 'E' :: rest => afterDigits? (unsigned rest) == some []
  | _ => false

/-- Whether a text writes a number: digits with a point and an exponent where wanted, or a word for what
is no ordinary number, after a sign where wanted. -/
def isNumber (text : List Char) : Bool :=
  let body := unsigned text
  if ["inf", "infinity", "nan"].contains (String.ofList (body.map Char.toLower)) then true
  else
    match afterDigits? body with
    | some ('.' :: rest) => isExponent (rest.dropWhile Char.isDigit)
    | some rest => isExponent rest
    | none =>
        match body with
        | '.' :: rest => (afterDigits? rest).any isExponent
        | _ => false

/-!
## Patterns
-/

/-- The flags that decide what may stand in a pattern. -/
structure Flags where
  /-- Blanks and comments between the parts of a pattern do not count. -/
  spaced : Bool := false
  /-- Parts stand for characters rather than bytes. -/
  wide : Bool := true
  caseless : Bool := false
deriving Repr, Inhabited, DecidableEq

/-- Whether a character cannot be taken: for want of a table of capital and small forms, if its case is not
to count. -/
def Flags.refuses (flags : Flags) : Bool :=
  flags.caseless && flags.wide

/-- Skips blanks and comments where they do not count; with `comment` on, up to the end of the line. -/
def skipSpace (flags : Flags) (comment : Bool) : List Char → List Char
  | [] => []
  | c :: rest =>
      if !flags.spaced then c :: rest
      else if comment then skipSpace flags (c != '\n') rest
      else if Text.isBlank c then skipSpace flags false rest
      else if c = '#' then skipSpace flags true rest
      else c :: rest

/-- The characters that mean something of their own in a pattern. -/
def isMeta (c : Char) : Bool :=
  "\\.+*?()|[]\x7b\x7d^$#&-~".toList.contains c

/-- The characters that may stand behind a backslash for themselves. -/
def isEscapable (c : Char) : Bool :=
  isMeta c || (c.toNat < 128 && !c.isAlphanum && c != '<' && c != '>')

/-- What an escape stands for. -/
inductive Escape where
  | literal (c : Char)
  | set
  | place
  /-- A place at the edge of a word, or within one, in the sense of the wide standard. -/
  | wordPlace
deriving Repr, Inhabited, DecidableEq

/-- The number of a hexadecimal digit. -/
def hexDigit? (c : Char) : Option Nat :=
  if c.isDigit then some (c.toNat - '0'.toNat)
  else if 'a' ≤ c.toLower && c.toLower ≤ 'f' then some (c.toLower.toNat - 'a'.toNat + 10)
  else none

/-- Reads so many hexadecimal digits. -/
def readHex (flags : Flags) : Nat → Nat → List Char → Option (Nat × List Char)
  | 0, value, text => some (value, text)
  | count + 1, value, text =>
      match skipSpace flags false text with
      | [] => none
      | c :: rest => (hexDigit? c).bind fun digit => readHex flags count (value * 16 + digit) rest

/-- The character of a code, unless it is a byte that is no character. -/
def codeEscape (flags : Flags) (byte : Bool) (value : Nat) : Option Escape :=
  if byte && !flags.wide && 128 ≤ value then none
  else if value.isValidChar then some (.literal (Char.ofNat value))
  else none

/-- The character that a letter behind a backslash stands for. -/
def specialCharacter? (letter : Char) : Option Char :=
  [('a', '\x07'), ('f', '\x0c'), ('t', '\t'), ('n', '\n'), ('r', '\r'), ('v', '\x0b')].lookup letter

/-- Reads an escape behind its backslash. -/
def readEscape (flags : Flags) : List Char → Option (Escape × List Char)
  | [] => none
  | c :: rest =>
      let coded (count : Nat) : Option (Escape × List Char) :=
        (readHex flags count 0 rest).bind fun found =>
          (codeEscape flags (c == 'x') found.1).map fun escape =>
            (escape, skipSpace flags false found.2)
      if isEscapable c then some (.literal c, rest)
      else if c = 'x' then coded 2
      else if c = 'u' then coded 4
      else if c = 'U' then coded 8
      else if let some special := specialCharacter? c then some (.literal special, rest)
      else if c = 'A' || c = 'z' then some (.place, rest)
      else if c = 'b' || c = 'B' || c = '<' || c = '>' then
        some (if flags.wide then .wordPlace else .place, rest)
      else if flags.wide then none
      else if c = 'd' || c = 's' || c = 'w' then some (.set, rest)
      else none

/-!
### Bracket sets
-/

/-- The names of sets within brackets. -/
def setNames : List String :=
  ["alnum", "alpha", "ascii", "blank", "cntrl", "digit", "graph", "lower", "print", "punct", "space",
    "upper", "word", "xdigit"]

/-- Reads a named set behind its opening bracket; the flag tells that it is negated. -/
def readNamedSet? (text : List Char) : Option (Bool × List Char) :=
  match text with
  | ':' :: rest =>
      let (negated, body) := match rest with
        | '^' :: more => (true, more)
        | more => (false, more)
      match body.dropWhile (· != ':') with
      | ':' :: ']' :: after =>
          if setNames.contains (String.ofList (body.takeWhile (· != ':'))) then some (negated, after)
          else none
      | _ => none
  | _ => none

/-- Reads the hyphens at the start of a set, and counts them. -/
def readHyphens (flags : Flags) : Nat → Nat → List Char → Nat × List Char
  | 0, count, text => (count, text)
  | fuel + 1, count, text =>
      match skipSpace flags false text with
      | '-' :: rest => readHyphens flags fuel (count + 1) rest
      | rest => (count, rest)

/-- Reads the start of a set behind its opening bracket: a negation, and hyphens or a closing bracket that
stand for themselves.  Gives how many characters stand for themselves. -/
def readSetStart (flags : Flags) (text : List Char) : Option (Nat × List Char) :=
  let first := skipSpace flags false text
  let (negated, body) := match first with
    | '^' :: rest => (true, skipSpace flags false rest)
    | rest => (false, rest)
  let start := match body with
    | ']' :: rest => (1, rest)
    | rest => readHyphens flags rest.length 0 rest
  if (negated && !flags.wide) || (start.1 != 0 && flags.refuses) then none else some start

/-- A character as a member of a set: where parts stand for bytes, it has to be a single one. -/
def memberOf (flags : Flags) (c : Char) : Option Escape :=
  if flags.refuses || (!flags.wide && 128 ≤ c.toNat) then none else some (.literal c)

/-- Reads one character of a set, or an escape for several. -/
def readSetItem (flags : Flags) (text : List Char) : Option (Escape × List Char) :=
  match text with
  | [] => none
  | '\\' :: rest =>
      (readEscape flags rest).bind fun found =>
        match found.1 with
        | .literal c => (memberOf flags c).map fun member => (member, found.2)
        | _ => some found
  | c :: rest => (memberOf flags c).map fun member => (member, rest)

/-- Reads a character or a range of a set. -/
def readSetRange (flags : Flags) (text : List Char) : Option (List Char) :=
  match readSetItem flags text with
  | none => none
  | some (first, rest) =>
      match first, skipSpace flags false rest with
      | .place, _ | .wordPlace, _ => none
      | .literal low, '-' :: rest' =>
          match skipSpace flags false rest' with
          | ']' :: _ => some ('-' :: rest')
          | '-' :: _ => some ('-' :: rest')
          | more =>
              match readSetItem flags more with
              | some (.literal high, rest'') => if low ≤ high then some rest'' else none
              | _ => none
      | .set, '-' :: rest' =>
          match skipSpace flags false rest' with
          | ']' :: _ => some ('-' :: rest')
          | '-' :: _ => some ('-' :: rest')
          | _ => none
      | _, rest' => some rest'

/-- How far the members of a set have been read: how many there are since the last operation, how deep they
are nested, and how deep the operations before them are. -/
structure SetProgress where
  members : Nat := 0
  depth : Nat := 0
  operations : Option Nat := none
deriving Repr, Inhabited, DecidableEq

/-- One more member, so deep. -/
def SetProgress.add (p : SetProgress) (depth : Nat) : SetProgress :=
  { p with members := p.members + 1, depth := max p.depth depth }

/-- The depth of all that has been read. -/
def SetProgress.total (p : SetProgress) : Nat :=
  let members := p.depth + (if 1 < p.members then 1 else 0)
  match p.operations with
  | none => members
  | some depth => max depth members + 1

/-- Reads a set, and the sets in it, up to its closing bracket; gives the depth and what follows. -/
def readSet (flags : Flags) : Nat → SetProgress → List Char → Option (Nat × List Char)
  | 0, _, _ => none
  | fuel + 1, p, text =>
      let operation (rest : List Char) : Option (Nat × List Char) :=
        readSet flags fuel { operations := some p.total } rest
      match skipSpace flags false text with
      | [] => none
      | '[' :: rest =>
          match readNamedSet? rest with
          | some (negated, rest') =>
              if (negated && !flags.wide) || flags.refuses then none
              else readSet flags fuel (p.add 0) rest'
          | none =>
              (readSetStart flags rest).bind fun start =>
                (readSet flags fuel { members := start.1 } start.2).bind fun found =>
                  readSet flags fuel (p.add found.1) found.2
      | ']' :: rest => some (p.total + 1, rest)
      | '&' :: '&' :: rest | '-' :: '-' :: rest | '~' :: '~' :: rest => operation rest
      | here => (readSetRange flags here).bind (readSet flags fuel (p.add 0))

/-!
### Groups
-/

/-- Changes a flag by its letter; `none` if there is no such flag. -/
def Flags.set (flags : Flags) (letter : Char) (on : Bool) : Option Flags :=
  if letter = 'x' then some { flags with spaced := on }
  else if letter = 'u' then some { flags with wide := on }
  else if letter = 'i' then some { flags with caseless := on }
  else if letter = 'm' || letter = 's' || letter = 'U' || letter = 'R' then some flags
  else none

/-- Reads flags up to the colon or the parenthesis behind them, which is given too.  No flag may stand
twice, and a hyphen, which turns the flags after it off, must be followed by one. -/
def readFlags (flags : Flags) (seen : List Char) : List Char → Option (Flags × Char × List Char)
  | [] => none
  | c :: rest =>
      if c = ':' || c = ')' then
        if seen.head? = some '-' then none
        else if c = ')' && seen.isEmpty then none
        else some (flags, c, rest)
      else if seen.contains c then none
      else if c = '-' then readFlags flags (c :: seen) rest
      else (flags.set c (!seen.contains '-')).bind fun flags' => readFlags flags' (c :: seen) rest

/-- Whether a character may stand in the name of a group. -/
def isGroupNameChar (first : Bool) (c : Char) : Bool :=
  if c = '_' then true
  else if first then Text.Property.isAlphabetic c
  else c == '.' || c == '[' || c == ']' || Text.Property.isAlphanumeric c

/-- Reads the name of a group behind its opening angle. -/
def readGroupName (text : List Char) : Option (List Char × List Char) :=
  let name := text.takeWhile (· != '>')
  match text.drop name.length with
  | _ :: rest =>
      match name with
      | [] => none
      | c :: more =>
          if isGroupNameChar true c && more.all (isGroupNameChar false) then some (name, rest) else none
  | [] => none

/-- What is read of a pattern: the flags in force, the names of groups so far, whether there has been a
place between words in the sense of the wide standard, and what is left. -/
structure Reading where
  flags : Flags := {}
  names : List (List Char) := []
  wordPlace : Bool := false
  rest : List Char
deriving Repr, Inhabited, DecidableEq

/-- How a group starts. -/
inductive Opening where
  /-- The flags change for the rest of the group around. -/
  | change (reading : Reading)
  | group (reading : Reading)

/-- Reads the start of a group behind its parenthesis. -/
def readOpening (r : Reading) : Option Opening :=
  let named (text : List Char) : Option Opening :=
    (readGroupName text).bind fun found =>
      if r.names.contains found.1 then none
      else some (.group { r with names := found.1 :: r.names, rest := found.2 })
  match skipSpace r.flags false r.rest with
  | '?' :: 'P' :: '<' :: rest => named rest
  | '?' :: '<' :: '!' :: _ => none
  | '?' :: '<' :: rest => named rest
  | '?' :: rest =>
      match readFlags r.flags [] rest with
      | some (flags, ')', rest') => some (.change { r with flags := flags, rest := rest' })
      | some (flags, _, rest') => some (.group { r with flags := flags, rest := rest' })
      | none => none
  | rest => some (.group { r with rest := rest })

/-!
### The whole
-/

/-- How far the parts of a pattern have been read: whether there is a part that can be repeated, how deep
that is, how many parts this alternative has and how deep they are, and how deep the alternatives before it
are, if there are any. -/
structure Progress where
  repeatable : Bool := false
  last : Nat := 0
  parts : Nat := 0
  depth : Nat := 0
  alternatives : Option Nat := none
deriving Repr, Inhabited, DecidableEq

namespace Progress

/-- One more part, so deep. -/
def add (p : Progress) (depth : Nat) : Progress :=
  { p with repeatable := true, last := depth, parts := p.parts + 1, depth := max p.depth depth }

/-- The last part is repeated. -/
def again (p : Progress) : Progress :=
  { p with last := p.last + 1, depth := max p.depth (p.last + 1) }

/-- The depth of this alternative and of those before it. -/
def deepest (p : Progress) : Nat :=
  max (p.alternatives.getD 0) (p.depth + (if 1 < p.parts then 1 else 0))

/-- The depth of all that has been read. -/
def total (p : Progress) : Nat :=
  p.deepest + (if p.alternatives.isSome then 1 else 0)

end Progress

/-- How deep the parts of a pattern may be nested. -/
def depthLimit : Nat := 250

/-- Reads alternatives up to the parenthesis that closes their group, or to the end; gives the depth and
what follows. -/
def readParts (inGroup : Bool) : Nat → Progress → Reading → Option (Nat × Reading)
  | 0, _, _ => none
  | fuel + 1, p, r =>
      let goOn (p : Progress) (rest : List Char) : Option (Nat × Reading) :=
        readParts inGroup fuel p { r with rest := rest }
      match skipSpace r.flags false r.rest with
      | [] => if inGroup then none else some (p.total, { r with rest := [] })
      | ')' :: rest => if inGroup then some (p.total, { r with rest := rest }) else none
      | '(' :: rest =>
          match readOpening { r with rest := rest } with
          | none => none
          | some (.change r') =>
              readParts inGroup fuel { p with repeatable := false, parts := p.parts + 1 } r'
          | some (.group r') =>
              (readParts true fuel {} r').bind fun found =>
                readParts inGroup fuel (p.add (found.1 + 1)) { found.2 with flags := r.flags }
      | '|' :: rest => goOn { alternatives := some p.deepest } rest
      | '[' :: rest =>
          (readSetStart r.flags rest).bind fun start =>
            (readSet r.flags (rest.length + 1) { members := start.1 } start.2).bind fun found =>
              goOn (p.add found.1) found.2
      | '?' :: rest | '*' :: rest | '+' :: rest =>
          if !p.repeatable then none
          else
            let after := match rest with
              | '?' :: more => more
              | more => more
            goOn p.again after
      | '\x7b' :: _ => none
      | '\\' :: rest =>
          match readEscape r.flags rest with
          | none => none
          | some (.literal _, rest') => if r.flags.refuses then none else goOn (p.add 0) rest'
          | some (.wordPlace, rest') =>
              readParts inGroup fuel (p.add 0) { r with wordPlace := true, rest := rest' }
          | some (_, rest') => goOn (p.add 0) rest'
      | '.' :: rest => if r.flags.wide then goOn (p.add 0) rest else none
      | '^' :: rest | '$' :: rest => goOn (p.add 0) rest
      | _ :: rest => if r.flags.refuses then none else goOn (p.add 0) rest

/-- What is wrong with a value. -/
inductive Fault where
  | malformed
  /-- The pattern asks for a place between words in the sense of the wide standard. -/
  | wordPlace
deriving Repr, Inhabited, DecidableEq

/-- What is wrong with a text as a pattern, if anything. -/
def patternFault? (text : List Char) : Option Fault :=
  match readParts false (text.length + 1) {} { rest := text } with
  | none => some .malformed
  | some (depth, found) =>
      if depthLimit < depth then some .malformed
      else if found.wordPlace then some .wordPlace
      else none

/-- What is wrong with a text that a field is to be compared with, if anything. -/
def valueFault? (text : List Char) : Option Fault :=
  if text == "true".toList || text == "false".toList || isNumber text then none else patternFault? text

end JobShell.Diagnostics.FieldPattern
