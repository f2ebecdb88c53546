/-
Module: JobShell.Machine.Utility.RichReader
Purpose: Rich patterns as they are written.
Main exports: RichFlags, readRichPattern
-/
import JobShell.Machine.Utility.RichBehind
import JobShell.Machine.Utility.RichSet

namespace JobShell.Machine.Utility

/-- The ways in which a pattern can be read. -/
structure RichFlags where
  fold : Bool := false
  /-- Lines within the text have starts and ends. -/
  lines : Bool := false
  /-- A full stop stands for the end of a line too. -/
  dotAll : Bool := false
  /-- Blanks and remarks count for nothing. -/
  spaced : Bool := false
  /-- Groups without names are not remembered. -/
  nameless : Bool := false
  /-- Repetitions are as few as possible unless they are marked. -/
  shy : Bool := false
deriving Repr, Inhabited, DecidableEq

/-- What has been read of a pattern: the text that is left, the groups so far, and whether signs have no
meaning just now. -/
structure RichReading where
  text : List Char
  flags : RichFlags := {}
  groups : Nat := 0
  names : List (List Char × Nat) := []
  quoting : Bool := false
deriving Repr, Inhabited

/-- The pattern of a single character. -/
def RichReading.plain (r : RichReading) (c : Char) : RichRegex :=
  .one { ranges := [(c, c)] } r.flags.fold

/-- The pattern of some characters, any one of which fits. -/
def RichReading.anyOf (r : RichReading) (ranges : CharRanges) : RichRegex :=
  .one { ranges := ranges } r.flags.fold

/-- The same reading at another place of the text. -/
def RichReading.at (r : RichReading) (text : List Char) : RichReading :=
  { r with text := text }

/-- A piece of a pattern: something that can be repeated, something that cannot, or nothing at all. -/
inductive RichPiece where
  | item (r : RichRegex)
  | fixed (r : RichRegex)
  | nothing
deriving Repr, Inhabited

/-!
## Repetitions
-/

/-- The largest count of repetitions. -/
def richLimit : Nat := 65535

/-- Reads how often a piece is repeated, if the text says that: the least count, the largest one, and what
follows. -/
def readTimes? (text : List Char) :
    Except RichFault (Option (Nat × Option Nat × List Char)) :=
  match text with
  | '*' :: rest => .ok (some (0, none, rest))
  | '+' :: rest => .ok (some (1, none, rest))
  | '?' :: rest => .ok (some (0, some 1, rest))
  | '\x7b' :: rest =>
      let (low, afterLow) := readDigits 10 rest
      let least := digitsValue 10 low
      if low.isEmpty then .ok none
      else
        let bounds : Option (Option Nat × List Char) :=
          match afterLow with
          | '\x7d' :: after => some (some least, after)
          | ',' :: more =>
              let (high, afterHigh) := readDigits 10 more
              match afterHigh with
              | '\x7d' :: after =>
                  some (if high.isEmpty then none else some (digitsValue 10 high), after)
              | _ => none
          | _ => none
        match bounds with
        | none => .ok none
        | some (most, after) =>
            if richLimit < least || most.any (richLimit < ·) then .error .countSize
            else if most.any (· < least) then .error .countOrder
            else .ok (some (least, most, after))
  | _ => .ok none

/-- A pattern that is repeated, with the mark that may follow the counts. -/
def repeatRich (shy : Bool) (body : RichRegex) (least : Nat) (most : Option Nat) (text : List Char) :
    RichRegex × List Char :=
  match text with
  | '?' :: rest => (.repeated body least most shy, rest)
  | '+' :: rest => (.settled (.repeated body least most true), rest)
  | _ => (.repeated body least most (!shy), text)

/-!
## Names and numbers of groups
-/

/-- Reads the name of a group up to the mark that ends it. -/
def readGroupName (mark : Char) (text : List Char) : RichStep (List Char) :=
  let name := text.takeWhile isWordChar
  match text with
  | [] => .error .nameMissing
  | c :: _ =>
      if c.isDigit then .error .nameDigit
      else if name.isEmpty then .error .nameMissing
      else
        match text.drop name.length with
        | d :: rest => if d = mark then .ok (name, rest) else .error .nameSyntax
        | [] => .error .nameSyntax

/-- The group of a number, which may count from the present place; nothing if it has not been opened. -/
def relativeGroup? (groups : Nat) (sign : Option Char) (n : Nat) : Option Nat :=
  match sign with
  | none => some n
  | some '-' => if n = 0 || groups < n then none else some (groups + 1 - n)
  | some _ => if n = 0 then none else some (groups + n)

/-- Reads the number of a group, perhaps with a sign. -/
def readGroupNumber (groups : Nat) (text : List Char) : RichStep Nat :=
  let (sign, body) : Option Char × List Char := match text with
    | '-' :: rest => (some '-', rest)
    | '+' :: rest => (some '+', rest)
    | _ => (none, text)
  let (digits, rest) := readDigits 10 body
  if digits.isEmpty then .error .relativeDigit
  else
    match relativeGroup? groups sign (digitsValue 10 digits) with
    | some n => .ok (n, rest)
    | none => .error .missingGroup

/-- Whether a text starts with a number, perhaps with a sign. -/
def startsNumber (text : List Char) : Bool :=
  match text with
  | '-' :: c :: _ | '+' :: c :: _ | c :: _ => c.isDigit
  | [] => false

/-- Reads the number or the name of a group up to the mark that ends it. -/
def readGroupRef (groups : Nat) (mark : Char) (text : List Char) : RichStep GroupName :=
  if startsNumber text then
    match readGroupNumber groups text with
    | .error fault => .error fault
    | .ok (n, d :: rest) => if d = mark then .ok (.number n, rest) else .error .groupSyntax
    | .ok _ => .error .groupSyntax
  else (readGroupName mark text).map fun (name, rest) => (.name name, rest)

/-!
## Pieces with a backslash
-/

/-- Reads what follows a backslash and a letter that speaks of a group. -/
def readGroupEscape (r : RichReading) (letter : Char) (text : List Char) : RichStep RichPiece :=
  let again (step : RichStep GroupName) : RichStep RichPiece :=
    step.map fun (g, rest) => (.item (.again g r.flags.fold), rest)
  match letter, text with
  | 'k', '\x7b' :: rest =>
      again ((readGroupName '\x7d' rest).map fun (name, after) => (.name name, after))
  | 'k', '<' :: rest => again ((readGroupName '>' rest).map fun (name, after) => (.name name, after))
  | 'k', '\'' :: rest => again ((readGroupName '\'' rest).map fun (name, after) => (.name name, after))
  | 'k', _ => .error .backSyntax
  | _, '\x7b' :: rest => again (readGroupRef r.groups '\x7d' rest)
  | _, '<' :: rest =>
      (readGroupRef r.groups '>' rest).map fun (g, after) => (.item (.call g), after)
  | _, '\'' :: rest =>
      (readGroupRef r.groups '\'' rest).map fun (g, after) => (.item (.call g), after)
  | _, _ =>
      if startsNumber text then
        again ((readGroupNumber r.groups text).map fun (n, after) => (.number n, after))
      else .error .groupSyntax

/-- Reads digits after a backslash: a group that has been read or may be read, or a character in base
eight. -/
def readDigitEscape (r : RichReading) (text : List Char) : RichStep RichPiece :=
  let (digits, rest) := readDigits 10 text
  let n := digitsValue 10 digits
  if n < 10 || digits.head?.any (fun c => '8' ≤ c) || n ≤ r.groups then
    .ok (.item (.again (.number n) r.flags.fold), rest)
  else
    let (octal, after) := readSomeDigits 8 3 text
    if 255 < digitsValue 8 octal then .error .octalSize
    else .ok (.item (r.plain (Char.ofNat (digitsValue 8 octal))), after)

/-- Any end of a line. -/
def anyLineEnd (r : RichReading) : RichRegex :=
  .settled (.either (.sequence (r.plain '\r') (r.plain '\n')) (r.anyOf lineEndRanges))

/-- A character as a reader counts it: the two that end a line together are one. -/
def wholeCharacter (r : RichReading) : RichRegex :=
  .settled (.either (.sequence (r.plain '\r') (r.plain '\n')) (.one anyChar false))

/-- Reads what follows a backslash. -/
def readRichEscape (r : RichReading) (text : List Char) : RichStep RichPiece :=
  let lineChar : RichRegex := .one { negated := true, ranges := [('\n', '\n')] } false
  match text with
  | [] => .error .lastBackslash
  | c :: rest =>
      match richClass? c, readCode? c rest with
      | some ranges, _ => .ok (.item (r.anyOf ranges), rest)
      | none, .error fault => .error fault
      | none, .ok (some (code, after)) => .ok (.item (r.plain code), after)
      | none, .ok none =>
          match c with
          | 'E' => .ok (.nothing, rest)
          | 'A' => .ok (.fixed (.edge .textStart), rest)
          | 'z' => .ok (.fixed (.edge .textEnd), rest)
          | 'Z' => .ok (.fixed (.edge .lastLineEnd), rest)
          | 'G' => .ok (.fixed (.edge .searchStart), rest)
          | 'b' => .ok (.fixed (.edge .word), rest)
          | 'B' => .ok (.fixed (.edge .noWord), rest)
          | 'K' => .ok (.fixed .restart, rest)
          | 'R' => .ok (.item (anyLineEnd r), rest)
          | 'X' => .ok (.item (wholeCharacter r), rest)
          | 'C' => .ok (.item (.one anyChar false), rest)
          | 'N' =>
              match rest, readTimes? rest with
              | '\x7b' :: _, .ok none => .error .caseEscape
              | _, _ => .ok (.item lineChar, rest)
          | 'g' | 'k' => readGroupEscape r c rest
          | 'p' | 'P' =>
              (readProperty (c == 'P') rest).map fun (ranges, after) =>
                (.item (.one { ranges := ranges } false), after)
          | 'L' | 'l' | 'U' | 'u' | 'F' => .error .caseEscape
          | _ =>
              if c.isDigit then readDigitEscape r text
              else if c.isAlpha then .error .unknownEscape
              else .ok (.item (r.plain c), rest)

/-!
## Groups and branches
-/

/-- Reads flags up to a closing parenthesis or a colon. -/
def readFlags (on : Bool) : RichFlags → List Char → RichStep RichFlags
  | _, [] => .error .openGroup
  | f, c :: rest =>
      match c with
      | ')' | ':' => .ok (f, c :: rest)
      | '-' => if on then readFlags false f rest else .error .unknownGroup
      | 'i' => readFlags on { f with fold := on } rest
      | 'm' => readFlags on { f with lines := on } rest
      | 's' => readFlags on { f with dotAll := on } rest
      | 'x' => readFlags on { f with spaced := on } rest
      | 'n' => readFlags on { f with nameless := on } rest
      | 'U' => readFlags on { f with shy := on } rest
      | 'J' => readFlags on f rest
      | _ => .error .unknownGroup

/-- The piece of a word between a parenthesis with a star and the closing one. -/
def verb? (word : String) : Option RichRegex :=
  match word with
  | "F" | "FAIL" => some .never
  | "COMMIT" => some (.cut .nowhere)
  | "PRUNE" | "THEN" => some (.cut .nextStart)
  | "SKIP" => some (.cut .here)
  | _ => none

/-- What follows blanks and remarks, where they count for nothing. -/
def skipSpaced : Bool → List Char → List Char
  | _, [] => []
  | true, c :: rest => skipSpaced (c != '\n') rest
  | false, c :: rest =>
      if c = '#' then skipSpaced true rest
      else if isBlankChar c then skipSpaced false rest
      else c :: rest

/-- What follows everything that counts for nothing between a repetition and the mark that may follow it:
remarks, quotations of nothing, and blanks where they do not count. -/
def skipIgnored (spaced : Bool) : Nat → List Char → List Char
  | 0, text => text
  | fuel + 1, text =>
      match if spaced then skipSpaced false text else text with
      | '\\' :: 'E' :: rest | '\\' :: 'Q' :: '\\' :: 'E' :: rest => skipIgnored spaced fuel rest
      | '(' :: '?' :: '#' :: rest =>
          match rest.dropWhile (· != ')') with
          | _ :: after => skipIgnored spaced fuel after
          | [] => '(' :: '?' :: '#' :: rest
      | other => other

/-- Starts a group: its number and the reading after that. -/
def RichReading.open (r : RichReading) (text : List Char) : Nat × RichReading :=
  (r.groups + 1, { r with text := text, groups := r.groups + 1 })

/-- The kinds of parentheses. -/
inductive RichOpening where
  | plain
  | group (number : Nat)
  | settled
  /-- Numbers start anew in each branch. -/
  | reset
  | look (wanted behind : Bool)
  | choice (group : GroupName)
deriving Repr, Inhabited

/-- What a parenthesis comes to: an opening with the reading inside, or a piece that is complete. -/
inductive RichOpened where
  | inside (opening : RichOpening) (r : RichReading)
  | piece (p : RichPiece) (r : RichReading)

/-- Opens a group with a name. -/
def openNamed (r : RichReading) (mark : Char) (text : List Char) : Except RichFault RichOpened :=
  match readGroupName mark text with
  | .error fault => .error fault
  | .ok (name, rest) =>
      if (r.names.lookup name).isSome then .error .nameTwice
      else
        let (number, inner) := r.open rest
        .ok (.inside (.group number) { inner with names := (name, number) :: inner.names })

/-- Reads the condition of a choice. -/
def openChoice (r : RichReading) (text : List Char) : Except RichFault RichOpened :=
  let chosen (step : RichStep GroupName) : Except RichFault RichOpened :=
    match step with
    | .error fault => .error fault
    | .ok (g, ')' :: rest) => .ok (.inside (.choice g) (r.at rest))
    | .ok _ => .error .openGroup
  let named (mark : Char) (rest : List Char) : RichStep GroupName :=
    (readGroupName mark rest).map fun (name, after) => (.name name, after)
  match text with
  | '<' :: rest => chosen (named '>' rest)
  | '\'' :: rest => chosen (named '\'' rest)
  | _ =>
      if startsNumber text then
        chosen ((readGroupNumber r.groups text).map fun (n, after) => (.number n, after))
      else .error .conditionWanted

/-- Closes what has no inside. -/
def complete (r : RichReading) (regex : RichRegex) (text : List Char) : Except RichFault RichOpened :=
  match text with
  | ')' :: rest => .ok (.piece (.item regex) (r.at rest))
  | _ => .error .openGroup

/-- Reads what follows a parenthesis with a question mark. -/
def openSpecial (r : RichReading) (text : List Char) : Except RichFault RichOpened :=
  let inside (opening : RichOpening) (rest : List Char) : Except RichFault RichOpened :=
    .ok (.inside opening (r.at rest))
  let called (step : RichStep GroupName) : Except RichFault RichOpened :=
    match step with
    | .error fault => .error fault
    | .ok (g, rest) => complete r (.call g) rest
  let named (rest : List Char) : RichStep GroupName :=
    let name := rest.takeWhile isWordChar
    (readGroupName ')' rest).map fun _ => (.name name, rest.drop name.length)
  match text with
  | [] => .error .openGroup
  | ':' :: rest => inside .plain rest
  | '|' :: rest => inside .reset rest
  | '>' :: rest => inside .settled rest
  | '=' :: rest => inside (.look true false) rest
  | '!' :: rest => inside (.look false false) rest
  | '<' :: '=' :: rest => inside (.look true true) rest
  | '<' :: '!' :: rest => inside (.look false true) rest
  | '<' :: rest => openNamed r '>' rest
  | '\'' :: rest => openNamed r '\'' rest
  | 'P' :: '<' :: rest => openNamed r '>' rest
  | 'P' :: '>' :: rest => called (named rest)
  | 'P' :: '=' :: rest =>
      match named rest with
      | .error fault => .error fault
      | .ok (g, after) => complete r (.again g r.flags.fold) after
  | 'P' :: _ => .error .unknownNamed
  | '&' :: rest => called (named rest)
  | 'R' :: rest => complete r (.call (.number 0)) rest
  | 'C' :: rest =>
      match (readDigits 10 rest).2 with
      | ')' :: after => .ok (.piece (.fixed .empty) (r.at after))
      | _ => .error .openGroup
  | '(' :: rest => openChoice r rest
  | '#' :: rest =>
      match rest.dropWhile (· != ')') with
      | _ :: after => .ok (.piece .nothing (r.at after))
      | [] => .error .openRemark
  | c :: rest =>
      if startsNumber text then
        called ((readGroupNumber r.groups text).map fun (n, after) => (.number n, after))
      else if c = '+' then .error .relativeDigit
      else
        let (flags, body) : RichFlags × List Char :=
          if c = '^' then
            ({ r.flags with
                fold := false, lines := false, dotAll := false, spaced := false, nameless := false },
              rest)
          else (r.flags, text)
        match readFlags true flags body with
        | .error fault => .error fault
        | .ok (flags', ':' :: after) => .ok (.inside .plain { r with flags := flags', text := after })
        | .ok (flags', after) =>
            .ok (.piece (.fixed .empty) { r with flags := flags', text := after.drop 1 })

/-- Reads what follows a parenthesis. -/
def openParenthesis (r : RichReading) (text : List Char) : Except RichFault RichOpened :=
  match text with
  | '?' :: rest => openSpecial r rest
  | '*' :: c :: rest =>
      if !c.isAlpha then .error .nothingToRepeat
      else
        let word := (c :: rest).takeWhile (· != ')')
        match verb? (String.ofList word), (c :: rest).drop word.length with
        | some regex, _ :: after => .ok (.piece (.fixed regex) (r.at after))
        | _, _ => .error .unknownVerb
  | _ =>
      if r.flags.nameless then .ok (.inside .plain (r.at text))
      else
        let (number, inner) := r.open text
        .ok (.inside (.group number) inner)

/-- What parentheses around a pattern come to. -/
def closeParenthesis (opening : RichOpening) (body : RichRegex) : RichRegex :=
  match opening with
  | .plain | .reset => .sequence .empty body
  | .group number => .group number body
  | .settled => .settled body
  | .look wanted false => .look wanted body
  | .look wanted true => .look wanted (.behind body)
  | .choice g =>
      match body with
      | .either yes no => .choice g yes no
      | yes => .choice g yes .empty

/-- Whether group numbers start anew in each branch after an opening. -/
def RichOpening.resets : RichOpening → Bool
  | reset => true
  | _ => false

/-- A pattern with a piece after it that has not been repeated. -/
def appendPiece (soFar : RichRegex) (last : Option RichRegex) : RichRegex :=
  (last.map (RichRegex.sequence soFar)).getD soFar

/-- The look at a word that is written like a set, after its opening bracket. -/
def bracketLook? (text : List Char) : Option (RichRegex × List Char) :=
  let word : RichRegex := .one (wordSet false) false
  if "[:<:]]".toList.isPrefixOf text then some (.look true word, text.drop 6)
  else if "[:>:]]".toList.isPrefixOf text then
    some (.look true (.behind word), text.drop 6)
  else none

/-- What is wrong with a class that stands outside a set, after its opening bracket. -/
def outsideFault? (text : List Char) : Option RichFault :=
  match text with
  | ':' :: rest => (classText? ':' rest).map fun _ => .classOutside
  | '.' :: rest => (classText? '.' rest).map fun _ => .collating
  | '=' :: rest => (classText? '=' rest).map fun _ => .collating
  | _ => none

mutual

/-- Reads branches up to a closing parenthesis or the end. -/
def readBranches (resets : Bool) :
    Nat → RichReading → Except RichFault (RichRegex × RichReading)
  | 0, _ => .error .tooLong
  | fuel + 1, r =>
      match readBranchPieces fuel .empty none r with
      | .error fault => .error fault
      | .ok (first, r') =>
          match r'.text with
          | '|' :: rest =>
              let next := { r' with text := rest, groups := if resets then r.groups else r'.groups }
              match readBranches resets fuel next with
              | .error fault => .error fault
              | .ok (second, r'') =>
                  .ok (.either first second, { r'' with groups := max r'.groups r''.groups })
          | _ => .ok (first, r')

/-- Reads a branch; `soFar` is what stands before it, and `last` a piece that may be repeated. -/
def readBranchPieces :
    Nat → RichRegex → Option RichRegex → RichReading → Except RichFault (RichRegex × RichReading)
  | 0, _, _, _ => .error .tooLong
  | fuel + 1, soFar, last, r =>
      let item (regex : RichRegex) (r : RichReading) :=
        readBranchPieces fuel (appendPiece soFar last) (some regex) r
      let fixed (regex : RichRegex) (r : RichReading) :=
        readBranchPieces fuel (.sequence (appendPiece soFar last) regex) none r
      let piece (p : RichPiece) (r : RichReading) :=
        match p with
        | .item regex => item regex r
        | .fixed regex => fixed regex r
        | .nothing => readBranchPieces fuel soFar last r
      if r.quoting then
        match r.text with
        | [] => .ok (.sequence .empty (appendPiece soFar last), r)
        | '\\' :: 'E' :: rest =>
            readBranchPieces fuel soFar last { r with text := rest, quoting := false }
        | c :: rest => item (r.plain c) (r.at rest)
      else
        let text := if r.flags.spaced then skipSpaced false r.text else r.text
        match text, readTimes? text with
        | [], _ | '|' :: _, _ | ')' :: _, _ => .ok (.sequence .empty (appendPiece soFar last), r.at text)
        | _, .error fault => .error fault
        | _, .ok (some (least, most, rest)) =>
            match last with
            | none => .error .nothingToRepeat
            | some body =>
                let marked := skipIgnored r.flags.spaced rest.length rest
                let (regex, after) := repeatRich r.flags.shy body least most marked
                readBranchPieces fuel (.sequence soFar regex) none (r.at after)
        | '^' :: rest, _ =>
            fixed (.edge (if r.flags.lines then .lineStart else .textStart)) (r.at rest)
        | '$' :: rest, _ => fixed (.edge (if r.flags.lines then .lineEnd else .textEnd)) (r.at rest)
        | '.' :: rest, _ =>
            let line : CharSet := { negated := true, ranges := [('\n', '\n')] }
            item (.one (if r.flags.dotAll then anyChar else line) false) (r.at rest)
        | '\\' :: 'Q' :: rest, _ =>
            readBranchPieces fuel soFar last { r with text := rest, quoting := true }
        | '\\' :: rest, _ =>
            match readRichEscape r rest with
            | .error fault => .error fault
            | .ok (p, after) => piece p (r.at after)
        | '[' :: rest, _ =>
            match bracketLook? rest, outsideFault? rest with
            | some (look, after), _ =>
                let before := RichRegex.sequence (appendPiece soFar last) (.edge .word)
                readBranchPieces fuel before (some look) (r.at after)
            | none, some fault => .error fault
            | none, none =>
                match readRichSet rest with
                | .error fault => .error fault
                | .ok (set, after) => item (.one set r.flags.fold) (r.at after)
        | '(' :: rest, _ =>
            match openParenthesis r rest with
            | .error fault => .error fault
            | .ok (.piece p r') => piece p r'
            | .ok (.inside opening inner) =>
                match readBranches opening.resets fuel inner with
                | .error fault => .error fault
                | .ok (body, r') =>
                    match r'.text with
                    | ')' :: after =>
                        item (closeParenthesis opening body) { r' with text := after, flags := r.flags }
                    | _ => .error .openGroup
        | c :: rest, _ => item (r.plain c) (r.at rest)

end

/-- Reads a rich pattern, which may have to match the whole text.  What it speaks of has to be there in the
end. -/
def readRichPattern (fold whole : Bool) (text : List Char) : Except RichFault RichPattern :=
  match readBranches false (4 * text.length + 16) { text := text, flags := { fold := fold } } with
  | .error fault => .error fault
  | .ok (body, r) =>
      if !r.text.isEmpty then .error .closedGroup
      else
        let framed := RichRegex.sequence (.edge .textStart) (.sequence body (.edge .textEnd))
        ({ body := if whole then framed else body, names := r.names } : RichPattern).checked r.groups

end JobShell.Machine.Utility
