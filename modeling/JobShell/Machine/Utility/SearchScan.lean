/-
Module: JobShell.Machine.Utility.SearchScan
Purpose: Going through the lines of a text in a search: which lines are selected, which ones are shown as
  their context, and how a line looks.
Main exports: SearchLine, SearchView, Scan, scanLines
-/
import JobShell.Machine.Utility.LineMatcher
import JobShell.Machine.Utility.SearchOptions

namespace JobShell.Machine.Utility

open Text (Bytes)

/-- A line of a text: its number, the place of its first character, and its characters. -/
structure SearchLine where
  number : Nat
  offset : Nat
  chars : List Char
deriving Repr, Inhabited, DecidableEq

/-- The lines of a text; a character ends a line if it is one of the ends. -/
def searchLines (isEnd : Char → Bool) (text : List Char) : List SearchLine :=
  let ends := text.foldl (fun (soFar : List SearchLine × SearchLine) c =>
    let (done, line) := soFar
    if isEnd c then
      (({ line with chars := line.chars.reverse } : SearchLine) :: done,
        { number := line.number + 1, offset := line.offset + line.chars.length + 1, chars := [] })
    else (done, { line with chars := c :: line.chars }))
    (([] : List SearchLine), ({ number := 1, offset := 0, chars := [] } : SearchLine))
  let (done, last) := ends
  (if last.chars.isEmpty then done
    else ({ last with chars := last.chars.reverse } : SearchLine) :: done).reverse

/-- How lines are shown: what is asked for, what is searched for, and the name in front of lines if there
is to be one. -/
structure SearchView where
  options : SearchOptions
  matcher : LineMatcher
  label : Option (List Char)
  /-- How wide numbers are at least. -/
  width : Nat

namespace SearchView

/-- A text in a colour, if there are to be colours. -/
def paint (v : SearchView) (colour : String) (text : List Char) : List Char :=
  if v.options.paints then
    '\x1b' :: '[' :: colour.toList ++ ['m', '\x1b', '[', 'K'] ++ text ++
      ['\x1b', '[', 'm', '\x1b', '[', 'K']
  else text

/-- A number in front of a line. -/
def number (v : SearchView) (n : Nat) : List Char :=
  let digits := Nat.toDigits 10 n
  v.paint "32" (List.replicate (v.width - digits.length) ' ' ++ digits)

/-- The name in front of a line, with what follows it. -/
def named (v : SearchView) (mark : Char) (name : List Char) : List Char :=
  v.paint "35" name ++
    (if v.options.zeroAfterName then [Char.ofNat 0] else v.paint "36" [mark])

/-- What stands in front of a line, or of a part of it that starts at a place. -/
def front (v : SearchView) (mark : Char) (line : SearchLine) (start : Nat) (isBlank : Bool) :
    List Char :=
  let o := v.options
  let name := (v.label.map (v.named mark)).getD []
  let count := if o.numbers then v.number line.number ++ v.paint "36" [mark] else []
  let place := if o.offsets then v.number (line.offset + start) ++ v.paint "36" [mark] else []
  let all := name ++ count ++ place
  if o.tabs && !all.isEmpty && !isBlank then all ++ ['\t'] else all

/-- The character that ends a line. -/
def lineEnd (v : SearchView) : Char :=
  if v.options.zeroLines then Char.ofNat 0 else '\n'

/-- A line with its matches painted. -/
def painted (v : SearchView) (chars : List Char) : List (Nat × Nat) → Nat → List Char
  | [], start => chars.drop start
  | (s, e) :: rest, start =>
      (chars.drop start).take (s - start) ++
        v.paint "01;31" ((chars.drop s).take (e - s)) ++ painted v chars rest e

/-- A line as it is shown, as a selected one or as context. -/
def line (v : SearchView) (selected : Bool) (l : SearchLine) : List Char :=
  let o := v.options
  let mark := if selected then ':' else '-'
  let hasMatches := selected != o.inverts
  let found := if hasMatches && (o.only || o.paints) then v.matcher.matchesIn l.chars.toArray else []
  if o.only then
    found.flatMap fun (s, e) =>
      v.front (if o.inverts then '-' else ':') l s false ++
        v.paint "01;31" ((l.chars.drop s).take (e - s)) ++ [v.lineEnd]
  else v.front mark l 0 l.chars.isEmpty ++ v.painted l.chars found 0 ++ [v.lineEnd]

/-- What separates groups of lines. -/
def separator (v : SearchView) : List Char :=
  match v.options.separator with
  | some text => v.paint "36" (charsOf text) ++ ['\n']
  | none => []

end SearchView

/-- Where a search stands between two lines. -/
structure Scan where
  /-- What has been written, the last of it first. -/
  written : List (List Char) := []
  /-- Something has been written before, perhaps about another text. -/
  used : Bool := false
  /-- The number of the last line that has been shown. -/
  shown : Nat := 0
  /-- The lines since the last one that has been shown, as many as could be wanted, the last one first. -/
  waiting : List SearchLine := []
  /-- How many of the next lines are shown as context. -/
  pending : Nat := 0
  count : Nat := 0
  /-- The place after the last line that has been selected. -/
  resume : Nat := 0
deriving Inhabited

namespace Scan

/-- Writes something. -/
def write (s : Scan) (text : List Char) : Scan :=
  { s with written := text :: s.written }

/-- Takes in a line that is not selected. -/
def pass (s : Scan) (v : SearchView) (quiet : Bool) (l : SearchLine) : Scan :=
  if quiet then s
  else if 0 < s.pending then
    { s.write (v.line false l) with pending := s.pending - 1, shown := l.number }
  else { s with waiting := (l :: s.waiting).take (v.options.leading.getD 0) }

/-- Takes in a line that is selected. -/
def select (s : Scan) (v : SearchView) (quiet : Bool) (l : SearchLine) : Scan :=
  let counted := { s with count := s.count + 1, resume := l.offset + l.chars.length + 1, used := true }
  if quiet then counted
  else
    let first := (s.waiting.getLast?.map (·.number)).getD l.number
    let inGroups := v.options.leading.isSome || v.options.trailing.isSome
    let parted :=
      if inGroups && s.used && (s.shown = 0 || s.shown + 1 < first) then counted.write v.separator
      else counted
    let led := s.waiting.reverse.foldl (fun s line => s.write (v.line false line)) parted
    { led.write (v.line true l) with
      waiting := [], shown := l.number, pending := v.options.trailing.getD 0 }

end Scan

/-- Goes through lines.  `left` tells how many may still be selected; after that, lines are shown only as
context.  With `atFirst`, the first one that is selected is enough. -/
def scanLines (v : SearchView) (quiet atFirst : Bool) :
    Option Nat → List SearchLine → Scan → Scan
  | _, [], s => s
  | left, l :: rest, s =>
      if left = some 0 then
        if s.pending = 0 then s else scanLines v quiet atFirst left rest (s.pass v quiet l)
      else if v.matcher.hasMatch l.chars.toArray != v.options.inverts then
        let chosen := s.select v quiet l
        if atFirst then chosen
        else scanLines v quiet atFirst (left.map (· - 1)) rest chosen
      else scanLines v quiet atFirst left rest (s.pass v quiet l)

end JobShell.Machine.Utility
