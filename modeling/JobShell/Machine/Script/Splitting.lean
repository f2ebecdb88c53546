/-
Module: JobShell.Machine.Script.Splitting
Purpose: Words as far as they have been worked out, and how they come apart into fields.
Main exports: Cell, Region, Expanded, Expanded.fields, rawText, patternText
-/
import JobShell.Machine.Script.Pattern

namespace JobShell.Machine.Script

/-- A piece of a word that has been worked out: a character, a character that has lost its meaning, or a
place where a quote stood. -/
inductive Cell where
  | char (c : Char)
  | guarded (c : Char)
  | mark
deriving Repr, Inhabited, DecidableEq

/-- The character of a cell, if it holds one. -/
def Cell.char? : Cell → Option Char
  | char c | guarded c => some c
  | mark => none

/-- A part of a word that comes apart where separators stand; with `zeroOnly` just at zero characters. -/
structure Region where
  start : Nat
  stop : Nat
  zeroOnly : Bool := false
deriving Repr, Inhabited, DecidableEq

/-- A word that has been worked out, with the regions in it in order. -/
structure Expanded where
  cells : Array Cell := #[]
  regions : Array Region := #[]
deriving Repr, Inhabited

/-- The text of cells. -/
def rawText (cells : List Cell) : List Char :=
  cells.filterMap Cell.char?

/-- The rest of a pattern.  A character that has lost its meaning gets a backslash, except behind a
backslash that stands by itself: then `open_` is off. -/
def patternRest (open_ : Bool) : List Cell → List Char
  | [] => []
  | .mark :: rest => patternRest true rest
  | .char '\\' :: rest => '\\' :: patternRest false rest
  | .char c :: rest => c :: patternRest true rest
  | .guarded c :: rest => if open_ then '\\' :: c :: patternRest true rest else c :: patternRest true rest

/-- Cells as a pattern. -/
def patternText (cells : List Cell) : List Char :=
  let plain (cell : Cell) : Bool := cell matches .char _
  rawText (cells.takeWhile plain) ++ patternRest true (cells.dropWhile plain)

namespace Expanded

/-- Adds a cell. -/
def add (x : Expanded) (cell : Cell) : Expanded :=
  { x with cells := x.cells.push cell }

/-- Adds cells. -/
def addAll (x : Expanded) (cells : List Cell) : Expanded :=
  { x with cells := cells.foldl Array.push x.cells }

/-- Makes a region of what has been added from a place on. -/
def region (x : Expanded) (start : Nat) (zeroOnly : Bool) : Expanded :=
  { x with regions := x.regions.push ⟨start, x.cells.size, zeroOnly⟩ }

/-- The text of a word. -/
def text (x : Expanded) : List Char :=
  rawText x.cells.toList

end Expanded

/-!
## Fields
-/

/-- The separators that count as blanks. -/
def usualSeparators : List Char := [' ', '\t', '\n']

/-- How far a word has been taken apart: where the present field begins, whether blanks are being skipped
behind a field, from where on the end is dropped, the fields so far, last one first, how many more fields
are taken off, if that is limited, and whether the last region is one for zero characters only. -/
structure Breaking where
  start : Nat := 0
  skipping : Bool := false
  cut : Option Nat := none
  fields : List (Nat × Nat) := []
  left : Option Nat := none
  zeroOnly : Bool := false
  afterZero : Bool := false
deriving Repr, Inhabited

/-- Goes on by one cell, which may hold a character. -/
def breakAt (separators : List Char) (b : Breaking) (place : Nat) (c : Option Char) : Breaking :=
  let separates := c.any fun c => c == zeroChar || (!b.zeroOnly && separators.contains c)
  let blank := separates && c.any fun c => c == zeroChar || usualSeparators.contains c
  if b.left = some 0 then
    if blank then { b with cut := b.cut.or (some place) }
    else { b with cut := if separates && b.skipping then b.cut else none, skipping := false }
  else
    let begun := if separates then place + 1 else place
    if b.skipping && blank then { b with start := begun }
    else
      let b' := if b.skipping then { b with start := begun, skipping := false } else b
      if !separates || b.skipping then { b' with skipping := false }
      else
        let skipping := if b.afterZero || b.zeroOnly then false else blank
        if place = b'.start && skipping then { b' with start := place + 1, skipping := false }
        else if b'.left = some 1 then { b' with left := some 0, cut := some place, skipping := skipping }
        else
          { b' with
            left := b'.left.map (· - 1)
            fields := (b'.start, place) :: b'.fields
            start := place + 1
            skipping := skipping }

/-- Goes through a region. -/
def breakRegion (separators : List Char) (cells : Array Cell) (b : Breaking) (region : Region) :
    Breaking :=
  let start : Breaking :=
    { b with skipping := false, zeroOnly := region.zeroOnly, afterZero := b.zeroOnly }
  ((List.range (region.stop - region.start)).map (· + region.start)).foldl
    (fun b place => breakAt separators b place (cells[place]?.bind Cell.char?)) start

namespace Expanded

/-- The fields into which a word comes apart, at most so many of them; then the last one keeps its
separators. -/
def fields (x : Expanded) (separators : List Char) (limit : Option Nat) : List (List Cell) :=
  let done := x.regions.foldl (breakRegion separators x.cells) { left := limit }
  let stop := done.cut.getD x.cells.size
  let isEmpty := stop ≤ done.start || x.cells[done.start]? == some (.char zeroChar)
  let all := if isEmpty && !done.zeroOnly then done.fields else (done.start, stop) :: done.fields
  all.reverse.map fun field =>
    (x.cells.extract field.1 field.2).toList.takeWhile (· != .char zeroChar)

end Expanded

end JobShell.Machine.Script
