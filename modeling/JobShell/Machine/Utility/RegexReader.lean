/-
Module: JobShell.Machine.Utility.RegexReader
Purpose: Search patterns as they are written, in a basic dialect, where most operators need a backslash,
  and in an extended one, where they stand by themselves.
Main exports: RegexDialect, RegexFault, readRegex
-/
import JobShell.Machine.Utility.Numeral
import JobShell.Machine.Utility.Regex

namespace JobShell.Machine.Utility

/-- A way to write patterns.  `strict` is on if a set may not be empty because of its order, a class may not
stand where a set is wanted, and an operator after a place that matches without a character repeats it. -/
structure RegexDialect where
  extended : Bool := false
  strict : Bool := true
deriving Repr, DecidableEq

/-- What is wrong with a pattern. -/
inductive RegexFault where
  | invalid
  | openBracket
  | openGroup
  | closedGroup
  | openBrace
  | braceContent
  | lastBackslash
  | reference
  | range
  | className
  | collation
  | tooBig
  | bareClass
deriving Repr, DecidableEq

/-- The words for what is wrong with a pattern. -/
def RegexFault.message : RegexFault → String
  | invalid => "Invalid regular expression"
  | openBracket => "Unmatched [, [^, [:, [., or [="
  | openGroup => "Unmatched ( or \\("
  | closedGroup => "Unmatched ) or \\)"
  | openBrace => "Unmatched \\\x7b"
  | braceContent => "Invalid content of \\\x7b\\\x7d"
  | lastBackslash => "Trailing backslash"
  | reference => "Invalid back reference"
  | range => "Invalid range end"
  | className => "Invalid character class name"
  | collation => "Invalid collation character"
  | tooBig => "Regular expression too big"
  | bareClass => "character class syntax is [[:space:]], not [:space:]"

/-- The characters of a class. -/
def classRanges? (name : String) : Option (List (Char × Char)) :=
  match name with
  | "alpha" => some [('A', 'Z'), ('a', 'z')]
  | "digit" => some [('0', '9')]
  | "alnum" => some [('0', '9'), ('A', 'Z'), ('a', 'z')]
  | "upper" => some [('A', 'Z')]
  | "lower" => some [('a', 'z')]
  | "space" => some [('\t', '\x0d'), (' ', ' ')]
  | "blank" => some [('\t', '\t'), (' ', ' ')]
  | "punct" => some [('!', '/'), (':', '@'), ('[', Char.ofNat 0x60), ('\x7b', '~')]
  | "print" => some [(' ', '~')]
  | "graph" => some [('!', '~')]
  | "cntrl" => some [('\x00', '\x1f'), ('\x7f', '\x7f')]
  | "xdigit" => some [('0', '9'), ('A', 'F'), ('a', 'f')]
  | _ => none

/-!
## Sets between brackets
-/

/-- Something that stands in a set: a single character, or a class that cannot end a range. -/
inductive SetItem where
  | single (c : Char)
  | ranges (ranges : List (Char × Char))
deriving Repr, Inhabited

/-- The name of a class or a character in a set, up to the mark that closes it. -/
def readSetName (mark : Char) : Nat → List Char → Except RegexFault (List Char × List Char)
  | 0, _ => .error .openBracket
  | fuel + 1, text =>
      match text with
      | [] | [_] => .error .openBracket
      | c :: d :: rest =>
          if c = mark && d = ']' then .ok ([], rest)
          else
            match readSetName mark fuel (d :: rest) with
            | .ok (name, rest') => .ok (c :: name, rest')
            | .error e => .error e

/-- The longest name that is read in a set. -/
def setNameLimit : Nat := 32

/-- Reads one item of a set.  A dash may stand for itself only in front or at the end. -/
def readSetItem (dashAllowed : Bool) (text : List Char) : Except RegexFault (SetItem × List Char) :=
  match text with
  | [] => .error .openBracket
  | '[' :: ':' :: rest =>
      match readSetName ':' setNameLimit rest with
      | .error e => .error e
      | .ok (name, rest') =>
          match classRanges? (String.ofList name) with
          | some ranges => .ok (.ranges ranges, rest')
          | none => .error .className
  | '[' :: '=' :: rest =>
      match readSetName '=' setNameLimit rest with
      | .error e => .error e
      | .ok ([c], rest') => .ok (.ranges [(c, c)], rest')
      | .ok _ => .error .collation
  | '[' :: '.' :: rest =>
      match readSetName '.' setNameLimit rest with
      | .error e => .error e
      | .ok ([c], rest') => .ok (.single c, rest')
      | .ok _ => .error .collation
  | '-' :: rest =>
      if dashAllowed || rest.head? = some ']' then .ok (.single '-', rest) else .error .range
  | c :: rest => .ok (.single c, rest)

/-- Reads the items of a set up to its closing bracket, in at most so many steps. -/
def readSetItems (d : RegexDialect) (first : Bool) :
    Nat → List Char → Except RegexFault (List (Char × Char) × List Char)
  | 0, _ => .error .openBracket
  | fuel + 1, text =>
      match text with
      | [] => .error .openBracket
      | c :: rest =>
          if c = ']' && !first then .ok ([], rest)
          else
            match readSetItem first text with
            | .error e => .error e
            | .ok (item, rest') =>
                let continued (ranges : List (Char × Char)) (rest : List Char) :=
                  match readSetItems d false fuel rest with
                  | .error e => .error e
                  | .ok (others, rest'') => .ok (ranges ++ others, rest'')
                match item, rest' with
                | .single low, '-' :: e :: more =>
                    if e = ']' then continued [(low, low)] rest'
                    else
                      match readSetItem true (e :: more) with
                      | .error e => .error e
                      | .ok (.ranges _, _) => .error .range
                      | .ok (.single high, rest'') =>
                          if low ≤ high then continued [(low, high)] rest''
                          else if d.strict then .error .range
                          else continued [] rest''
                | .single low, _ => continued [(low, low)] rest'
                | .ranges ranges, _ => continued ranges rest'

/-- Whether what stands in a set looks like a class without a set around it. -/
def isBareClass (text rest : List Char) : Bool :=
  let inside := text.take (text.length - rest.length - 1)
  match inside with
  | ':' :: c :: more => (c :: more).getLast? = some ':' && 1 < (c :: more).length
  | _ => false

/-- Reads a set after its opening bracket. -/
def readSet (d : RegexDialect) (text : List Char) : Except RegexFault (CharSet × List Char) :=
  let (negated, body) := match text with
    | '^' :: rest => (true, rest)
    | rest => (false, rest)
  if body.isEmpty then .error .invalid
  else
    match readSetItems d true (body.length + 1) body with
    | .error e => .error e
    | .ok (ranges, rest) =>
        if d.strict && isBareClass text rest then .error .bareClass
        else .ok ({ negated := negated, ranges := ranges }, rest)

/-!
## Operators
-/

/-- A sign of a pattern. -/
inductive RegexSign where
  | char (c : Char)
  | any
  | set (s : CharSet)
  | edge (e : Edge)
  | reference (n : Nat)
  | opening
  | closing
  | bar
  | times (least : Nat) (most : Option Nat)
deriving Repr, Inhabited

/-- The largest count of repetitions. -/
def repetitionLimit : Nat := 32767

/-- What stands between braces: the smallest and the largest count, which may be missing.  The flag in the
answer tells that the braces are well closed. -/
def readCounts (extended : Bool) (text : List Char) :
    Option Nat × Option Nat × Bool × List Char :=
  let (low, afterLow) := readDigits 10 text
  let least := if low.isEmpty then none else some (digitsValue 10 low)
  let (bounds, rest) : (Option Nat × Option Nat) × List Char :=
    match afterLow with
    | ',' :: more =>
        let (high, afterHigh) := readDigits 10 more
        ((some (least.getD 0), if high.isEmpty then none else some (digitsValue 10 high)), afterHigh)
    | more => ((least, least), more)
  match extended, rest with
  | true, '\x7d' :: rest' => (bounds.1, bounds.2, true, rest')
  | false, '\\' :: '\x7d' :: rest' => (bounds.1, bounds.2, true, rest')
  | _, _ => (bounds.1, bounds.2, false, rest)

/-- A text up to the next comma or closing brace with a backslash, and what is left from there on. -/
def untilBraceStop : List Char → List Char × List Char
  | [] => ([], [])
  | '\\' :: '\x7d' :: rest => ([], '\\' :: '\x7d' :: rest)
  | ',' :: rest => ([], ',' :: rest)
  | c :: rest =>
      let (front, left) := untilBraceStop rest
      (c :: front, left)

/-- What is wrong with braces in a basic pattern: they are not closed, or they hold something else than
counts. -/
def braceFault (text : List Char) : RegexFault :=
  match untilBraceStop text with
  | (_, []) => .openBrace
  | (front, ',' :: rest) =>
      if front.all Char.isDigit && (untilBraceStop rest).2.isEmpty then .openBrace else .braceContent
  | _ => .braceContent

/-- Reads braces after the opening one; nothing if they are to be taken as plain characters. -/
def readBraces (extended : Bool) (text : List Char) :
    Except RegexFault (Option (RegexSign × List Char)) :=
  match readCounts extended text with
  | (some least, most, true, rest) =>
      if most.any (· < least) then .error .braceContent
      else if repetitionLimit < least || most.any (repetitionLimit < ·) then .error .tooBig
      else .ok (some (.times least most, rest))
  | _ => if extended then .ok none else .error (braceFault text)

/-- The word characters as a set. -/
def wordSet (negated : Bool) : CharSet :=
  { negated := negated, ranges := [('0', '9'), ('A', 'Z'), ('_', '_'), ('a', 'z')] }

/-- The blanks as a set. -/
def blankSet (negated : Bool) : CharSet :=
  { negated := negated, ranges := [('\t', '\x0d'), (' ', ' ')] }

/-- The sign that a character after a backslash is in every dialect, if it is one. -/
def escapedSign? (c : Char) : Option RegexSign :=
  match c with
  | 'w' => some (.set (wordSet false))
  | 'W' => some (.set (wordSet true))
  | 's' => some (.set (blankSet false))
  | 'S' => some (.set (blankSet true))
  | '<' => some (.edge .wordStart)
  | '>' => some (.edge .wordEnd)
  | 'b' => some (.edge .word)
  | 'B' => some (.edge .noWord)
  | '\'' => some (.edge .finish)
  | _ =>
      if c.toNat = 0x60 then some (.edge .start)
      else if c.isDigit && c != '0' then some (.reference (c.toNat - '0'.toNat))
      else none

/-- The operator that a character is where it counts as one. -/
def operatorSign? (c : Char) : Option RegexSign :=
  match c with
  | '(' => some .opening
  | ')' => some .closing
  | '|' => some .bar
  | '+' => some (.times 1 none)
  | '?' => some (.times 0 (some 1))
  | _ => none

/-- Whether a dollar sign in a basic pattern stands at the end of a branch. -/
def endsBranch (rest : List Char) : Bool :=
  match rest with
  | [] | '\\' :: ')' :: _ | '\\' :: '|' :: _ => true
  | _ => false

/-- Reads a sign.  `front` is on at the start of a branch, where a basic pattern knows no repetitions, and
`anchors` where a circumflex is an anchor. -/
def readSign? (d : RegexDialect) (front anchors : Bool) (text : List Char) :
    Except RegexFault (Option (RegexSign × List Char)) :=
  let plain (c : Char) (rest : List Char) := Except.ok (some (RegexSign.char c, rest))
  let braces (rest : List Char) : Except RegexFault (Option (RegexSign × List Char)) :=
    if front && !d.extended then plain '\x7b' rest
    else
      match readBraces d.extended rest with
      | .ok none => plain '\x7b' rest
      | other => other
  match text with
  | [] => .ok none
  | ['\\'] => .error .lastBackslash
  | '\\' :: c :: rest =>
      match escapedSign? c with
      | some sign => .ok (some (sign, rest))
      | none =>
          if d.extended then plain c rest
          else if c = '\x7b' then braces rest
          else
            match operatorSign? c with
            | some (.times least most) =>
                if front then plain c rest else .ok (some (.times least most, rest))
            | some sign => .ok (some (sign, rest))
            | none => plain c rest
  | '[' :: rest =>
      match readSet d rest with
      | .error e => .error e
      | .ok (set, rest') => .ok (some (.set set, rest'))
  | '.' :: rest => .ok (some (.any, rest))
  | '*' :: rest =>
      if front && !d.extended then plain '*' rest else .ok (some (.times 0 none, rest))
  | '^' :: rest => if d.extended || anchors then .ok (some (.edge .start, rest)) else plain '^' rest
  | '$' :: rest =>
      if d.extended || endsBranch rest then .ok (some (.edge .finish, rest)) else plain '$' rest
  | c :: rest =>
      if !d.extended then plain c rest
      else if c = '\x7b' then braces rest
      else
        match operatorSign? c with
        | some sign => .ok (some (sign, rest))
        | none => plain c rest

/-- What has been read of a pattern: the text that is left, how many groups have been opened, the groups
that have been closed, and the operators that stood where nothing could be repeated. -/
structure RegexState where
  text : List Char
  groups : Nat := 0
  closed : List Nat := []
  misplaced : List Char := []
deriving Repr, Inhabited

/-- Any character. -/
def anyChar : CharSet :=
  { negated := true, ranges := [] }

/-- The pattern of a sign that stands by itself. -/
def signRegex : RegexSign → Regex
  | .char c => .one { ranges := [(c, c)] }
  | .any => .one anyChar
  | .set s => .one s
  | .edge e => .edge e
  | .reference n => .again n
  | _ => .empty

/-- The first characters of an operator, by which it is spoken of. -/
def operatorName (text : List Char) : Char :=
  text.headD '*'

/-- Notes the operator that the text starts with, if it stands at the start of a branch.  Braces end the
start of a branch, other operators do not. -/
def RegexState.noteOperator (s : RegexState) (front : Bool) : Bool × RegexState :=
  if !front then (false, s)
  else
    let c := operatorName s.text
    (c != '\x7b', { s with misplaced := s.misplaced ++ [c] })

mutual

/-- Reads alternatives; `depth` counts the open groups. -/
def readAlternatives (d : RegexDialect) (depth : Nat) :
    Nat → RegexState → Except RegexFault (Regex × RegexState)
  | 0, _ => .error .tooBig
  | fuel + 1, state =>
      match readBranch d depth true true fuel .empty state with
      | .error e => .error e
      | .ok (first, state') =>
          match readSign? d false false state'.text with
          | .ok (some (.bar, rest)) =>
              match readAlternatives d depth fuel { state' with text := rest } with
              | .error e => .error e
              | .ok (second, state'') => .ok (.either first second, state'')
          | _ => .ok (first, state')

/-- Reads what stands side by side; `soFar` is the pattern before it. -/
def readBranch (d : RegexDialect) (depth : Nat) (front anchors : Bool) :
    Nat → Regex → RegexState → Except RegexFault (Regex × RegexState)
  | 0, _, _ => .error .tooBig
  | fuel + 1, soFar, state =>
      match readSign? d front anchors state.text with
      | .error e => .error e
      | .ok none => .ok (soFar, state)
      | .ok (some (sign, rest)) =>
          let state' := { state with text := rest }
          match sign with
          | .bar => .ok (soFar, state)
          | .closing =>
              if depth = 0 then
                if d.extended then
                  readPiece d depth false fuel soFar (.one { ranges := [(')', ')')] }) state'
                else .error .closedGroup
              else .ok (soFar, state)
          | .opening =>
              let number := state.groups + 1
              match readAlternatives d (depth + 1) fuel { state' with groups := number } with
              | .error e => .error e
              | .ok (body, inner) =>
                  match readSign? d false false inner.text with
                  | .ok (some (.closing, rest')) =>
                      readPiece d depth false fuel soFar (.group number body)
                        { inner with text := rest', closed := number :: inner.closed }
                  | _ => .error .openGroup
          | .times _ _ =>
              let (front', noted) := state.noteOperator front
              readBranch d depth front' false fuel soFar { noted with text := rest }
          | .edge e =>
              if !d.extended && (front || !d.strict) then
                readBranch d depth true false fuel (.sequence soFar (.edge e)) state'
              else readPiece d depth front fuel soFar (.edge e) state'
          | .reference n =>
              if state.closed.contains n then readPiece d depth false fuel soFar (.again n) state'
              else .error .reference
          | _ => readPiece d depth false fuel soFar (signRegex sign) state'

/-- Reads the repetitions of a piece, and then what stands beside it.  `front` is on if the piece is a mere
place at the start of a branch. -/
def readPiece (d : RegexDialect) (depth : Nat) (front : Bool) :
    Nat → Regex → Regex → RegexState → Except RegexFault (Regex × RegexState)
  | 0, _, _, _ => .error .tooBig
  | fuel + 1, soFar, piece, state =>
      match readSign? d false false state.text with
      | .ok (some (.times least most, rest)) =>
          let (front', noted) := state.noteOperator front
          readPiece d depth front' fuel soFar (.repeated piece least most) { noted with text := rest }
      | .error e => .error e
      | _ => readBranch d depth front false fuel (.sequence soFar piece) state

end

/-- Reads a pattern.  The operators that stood where nothing could be repeated are told too. -/
def readRegex (d : RegexDialect) (text : List Char) : Except RegexFault (Regex × List Char) :=
  match readAlternatives d 0 (4 * text.length + 16) { text := text } with
  | .error e => .error e
  | .ok (regex, state) => .ok (regex, state.misplaced)

end JobShell.Machine.Utility
