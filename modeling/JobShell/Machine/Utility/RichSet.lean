/-
Module: JobShell.Machine.Utility.RichSet
Purpose: Sets of characters in rich patterns, and characters that are written with a backslash.
Main exports: richClass?, readCode?, readRichSet, readProperty
-/
import JobShell.Machine.Utility.RegexReader
import JobShell.Machine.Utility.RichFault

namespace JobShell.Machine.Utility

/-- A step in reading a rich pattern: what has been read, and the text after it. -/
abbrev RichStep (α : Type) := Except RichFault (α × List Char)

/-- Some ranges of characters. -/
abbrev CharRanges := List (Char × Char)

/-- A range of characters by their numbers. -/
def codes (low high : Nat) : Char × Char :=
  (Char.ofNat low, Char.ofNat high)

/-- All other characters of eight bits. -/
def otherRanges (ranges : CharRanges) : CharRanges :=
  ((List.range 256).map Char.ofNat).filterMap fun c =>
    if ranges.any fun r => r.1 ≤ c && c ≤ r.2 then none else some (c, c)

/-- Blanks within a line. -/
def spaceRanges : CharRanges :=
  [codes 9 9, codes 32 32, codes 160 160]

/-- Characters that end lines. -/
def lineEndRanges : CharRanges :=
  [codes 10 13, codes 133 133]

/-- The characters that a letter after a backslash stands for, if it stands for several. -/
def richClass? (letter : Char) : Option CharRanges :=
  match letter with
  | 'd' => some [('0', '9')]
  | 'D' => some (otherRanges [('0', '9')])
  | 'w' => some (wordSet false).ranges
  | 'W' => some (otherRanges (wordSet false).ranges)
  | 's' => some (blankSet false).ranges
  | 'S' => some (otherRanges (blankSet false).ranges)
  | 'h' => some spaceRanges
  | 'H' => some (otherRanges spaceRanges)
  | 'v' => some lineEndRanges
  | 'V' => some (otherRanges lineEndRanges)
  | _ => none

/-- The characters of a class between brackets. -/
def namedRanges? (name : List Char) : Option CharRanges :=
  let ranges? (name : List Char) : Option CharRanges :=
    match String.ofList name with
    | "word" => some (wordSet false).ranges
    | "ascii" => some [codes 0 127]
    | text => classRanges? text
  match name with
  | '^' :: rest => (ranges? rest).map otherRanges
  | _ => ranges? name

/-- The characters with a property. -/
def propertyRanges? (name : String) : Option CharRanges :=
  let upper : CharRanges := [('A', 'Z'), codes 0xc0 0xd6, codes 0xd8 0xde]
  let lower : CharRanges := [('a', 'z'), codes 0xb5 0xb5, codes 0xdf 0xf6, codes 0xf8 0xff]
  let letters : CharRanges := upper ++ lower ++ [codes 0xaa 0xaa, codes 0xba 0xba]
  let digits : CharRanges := [('0', '9')]
  let numbers : CharRanges := digits ++ [codes 0xb2 0xb3, codes 0xb9 0xb9, codes 0xbc 0xbe]
  let signs : CharRanges :=
    [('!', '#'), ('%', '*'), (',', '/'), (':', ';'), ('?', '@'), ('[', ']'), ('_', '_'),
      ('\x7b', '\x7b'), ('\x7d', '\x7d'), codes 0xa1 0xa1, codes 0xa7 0xa7, codes 0xab 0xab,
      codes 0xb6 0xb7, codes 0xbb 0xbb, codes 0xbf 0xbf]
  let symbols : CharRanges :=
    [('$', '$'), ('+', '+'), ('<', '>'), ('^', '^'), codes 0x60 0x60, ('|', '|'), ('~', '~'),
      codes 0xa2 0xa6, codes 0xa8 0xa9, codes 0xac 0xac, codes 0xae 0xb1, codes 0xb4 0xb4,
      codes 0xb8 0xb8, codes 0xd7 0xd7, codes 0xf7 0xf7]
  match name with
  | "Any" => some [codes 0 255]
  | "L" => some letters
  | "L&" => some (upper ++ lower)
  | "Lu" => some upper
  | "Ll" => some lower
  | "N" => some numbers
  | "Nd" => some digits
  | "P" => some signs
  | "S" => some symbols
  | "Z" | "Zs" => some [codes 32 32, codes 160 160]
  | "C" => some [codes 0 31, codes 127 159, codes 0xad 0xad]
  | "Cc" => some [codes 0 31, codes 127 159]
  | "Xan" => some (letters ++ numbers)
  | "Xwd" => some (letters ++ numbers ++ [('_', '_')])
  | "Xsp" | "Xps" => some [codes 9 13, codes 32 32, codes 133 133, codes 160 160]
  | _ => none

/-- Reads a property after its letter, which tells whether it is turned around. -/
def readProperty (turned : Bool) (text : List Char) : RichStep CharRanges :=
  let found (turned : Bool) (name rest : List Char) : RichStep CharRanges :=
    match propertyRanges? (String.ofList name) with
    | some ranges => .ok (if turned then otherRanges ranges else ranges, rest)
    | none => .error .unknownProperty
  match text with
  | '\x7b' :: rest =>
      let (negated, body) := match rest with
        | '^' :: more => (true, more)
        | _ => (false, rest)
      let name := body.takeWhile (· != '\x7d')
      match body.drop name.length with
      | [] => .error .propertySyntax
      | _ :: after => found (turned != negated) (name.filter fun c => c != ' ' && c != '_') after
  | c :: rest => if c.isAlpha then found turned [c] rest else .error .propertySyntax
  | [] => .error .propertySyntax

/-!
## Characters with a backslash
-/

/-- Reads digits of a base, at most so many. -/
def readSomeDigits (base limit : Nat) (text : List Char) : List Char × List Char :=
  let digits := (text.take limit).takeWhile (isDigitIn base)
  (digits, text.drop digits.length)

/-- Reads the number of a character between braces, after the opening one. -/
def readBracedCode (base : Nat) (fault : RichFault) (text : List Char) : RichStep Char :=
  let (digits, rest) := readDigits base text
  match rest with
  | '\x7d' :: after =>
      if digits.isEmpty then .error fault
      else if 255 < digitsValue base digits then .error .codeSize
      else .ok (Char.ofNat (digitsValue base digits), after)
  | _ => .error fault

/-- Reads the character that a letter or a zero after a backslash stands for, if it stands for one. -/
def readCode? (c : Char) (rest : List Char) : Except RichFault (Option (Char × List Char)) :=
  let plain (n : Nat) : Except RichFault (Option (Char × List Char)) := .ok (some (Char.ofNat n, rest))
  match c with
  | 'a' => plain 7
  | 'e' => plain 27
  | 'f' => plain 12
  | 'n' => plain 10
  | 'r' => plain 13
  | 't' => plain 9
  | 'c' =>
      match rest with
      | [] => .error .lastControl
      | d :: more =>
          if 32 ≤ d.toNat && d.toNat < 127 then
            .ok (some (Char.ofNat (d.toUpper.toNat ^^^ 64), more))
          else .error .controlSign
  | '0' =>
      let (digits, more) := readSomeDigits 8 2 rest
      .ok (some (Char.ofNat (digitsValue 8 digits), more))
  | 'o' =>
      match rest with
      | '\x7b' :: more => (readBracedCode 8 .octalDigits more).map some
      | _ => .error .octalDigits
  | 'x' =>
      match rest with
      | '\x7b' :: more => (readBracedCode 16 .hexDigits more).map some
      | _ =>
          let (digits, more) := readSomeDigits 16 2 rest
          .ok (some (Char.ofNat (digitsValue 16 digits), more))
  | _ => .ok none

/-!
## Sets between brackets
-/

/-- Whether a text that starts with a mark looks like a class between brackets, and if so, its name and what
follows it. -/
def classText? (mark : Char) : List Char → Option (List Char × List Char)
  | '\\' :: c :: rest =>
      if c = ']' || c = '\\' then (classText? mark rest).map fun (name, after) => ('\\' :: c :: name, after)
      else (classText? mark (c :: rest)).map fun (name, after) => ('\\' :: name, after)
  | c :: d :: rest =>
      if (c = '[' && d = mark) || c = ']' then none
      else if c = mark && d = ']' then some ([], rest)
      else (classText? mark (d :: rest)).map fun (name, after) => (c :: name, after)
  | _ => none

/-- Reads what follows a backslash in a set. -/
def readSetEscape (text : List Char) : RichStep SetItem :=
  match text with
  | [] => .error .lastBackslash
  | c :: rest =>
      match richClass? c with
      | some ranges => .ok (.ranges ranges, rest)
      | none =>
          match readCode? c rest with
          | .error fault => .error fault
          | .ok (some (code, after)) => .ok (.single code, after)
          | .ok none =>
              match c with
              | 'b' => .ok (.single (Char.ofNat 8), rest)
              | 'N' => .error .lineEndInSet
              | 'A' | 'B' | 'C' | 'G' | 'K' | 'R' | 'X' | 'Z' | 'k' | 'z' => .error .escapeInSet
              | 'g' => .ok (.single 'g', rest)
              | 'p' | 'P' =>
                  (readProperty (c == 'P') rest).map fun (ranges, after) => (.ranges ranges, after)
              | 'L' | 'l' | 'U' | 'u' | 'F' => .error .caseEscape
              | _ =>
                  if isDigitIn 8 c then
                    let (digits, after) := readSomeDigits 8 3 (c :: rest)
                    if 255 < digitsValue 8 digits then .error .octalSize
                    else .ok (.single (Char.ofNat (digitsValue 8 digits)), after)
                  else if c.isDigit then .ok (.single c, rest)
                  else if c.isAlpha then .error .unknownEscape
                  else .ok (.single c, rest)

/-- Reads an item of a set. -/
def readRichItem (text : List Char) : RichStep SetItem :=
  let named (mark : Char) (rest : List Char) : RichStep SetItem :=
    match classText? mark rest with
    | none => .ok (.single '[', text.drop 1)
    | some (name, after) =>
        if mark ≠ ':' then .error .collating
        else
          match namedRanges? name with
          | some ranges => .ok (.ranges ranges, after)
          | none => .error .unknownClass
  match text with
  | [] => .error .openSet
  | '[' :: ':' :: rest => named ':' rest
  | '[' :: '.' :: rest => named '.' rest
  | '[' :: '=' :: rest => named '=' rest
  | '\\' :: rest => readSetEscape rest
  | c :: rest => .ok (.single c, rest)

/-- Reads the items of a set up to its closing bracket, in at most so many steps.  `quoted` is on between
marks that take away the meaning of signs. -/
def readRichItems (first quoted : Bool) : Nat → List Char → RichStep CharRanges
  | 0, _ => .error .openSet
  | fuel + 1, text =>
      let continued (quoted : Bool) (ranges : CharRanges) (rest : List Char) : RichStep CharRanges :=
        (readRichItems false quoted fuel rest).map fun (others, after) => (ranges ++ others, after)
      match quoted, text with
      | _, [] => .error .openSet
      | true, '\\' :: 'E' :: rest => continued false [] rest
      | true, c :: rest => continued true [(c, c)] rest
      | false, '\\' :: 'Q' :: rest => continued true [] rest
      | false, '\\' :: 'E' :: rest => readRichItems first false fuel rest
      | false, c :: tail =>
          if c = ']' && !first then .ok ([], tail)
          else
            match readRichItem text with
            | .error fault => .error fault
            | .ok (.ranges ranges, '-' :: e :: more) =>
                if e = ']' then continued false ranges ('-' :: e :: more) else .error .setRange
            | .ok (.ranges ranges, rest) => continued false ranges rest
            | .ok (.single low, '-' :: e :: more) =>
                if e = ']' then continued false [(low, low)] ('-' :: e :: more)
                else
                  match readRichItem (e :: more) with
                  | .error fault => .error fault
                  | .ok (.ranges _, _) => .error .setRange
                  | .ok (.single high, rest) =>
                      if low ≤ high then continued false [(low, high)] rest else .error .rangeOrder
            | .ok (.single low, rest) => continued false [(low, low)] rest

/-- Reads a set after its opening bracket. -/
def readRichSet (text : List Char) : RichStep CharSet :=
  let (negated, body) := match text with
    | '^' :: rest => (true, rest)
    | _ => (false, text)
  (readRichItems true false (body.length + 2) body).map fun (ranges, rest) => ({ negated, ranges }, rest)

end JobShell.Machine.Utility
