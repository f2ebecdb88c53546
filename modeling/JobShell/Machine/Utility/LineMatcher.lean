/-
Module: JobShell.Machine.Utility.LineMatcher
Purpose: What a search looks for in a line: one of several patterns, perhaps as a word or as the whole line.
Main exports: LineMatcher, LineMatcher.findFrom, LineMatcher.matchesIn
-/
import JobShell.Machine.Utility.RichRegex

namespace JobShell.Machine.Utility

/-- What a search looks for.  A rich pattern stands by itself. -/
structure LineMatcher where
  patterns : List Regex
  rich : Option RichPattern := none
  fold : Bool := false
  words : Bool := false
  whole : Bool := false
deriving Repr, Inhabited, DecidableEq

namespace LineMatcher

/-- Whether a stretch of a line is not a part of a longer word. -/
def isWordAlone (s : Subject) (start finish : Nat) : Bool :=
  !s.wordBefore start && !s.wordAfter finish

/-- The end of the longest match of a pattern that starts at a position and stands alone as a word.  A
match without characters counts only if there is no longer one at all. -/
def wordAt (s : Subject) (r : Regex) (start : Nat) : Option Nat :=
  let points := r.ends s start
  match Regex.furthest points with
  | none => none
  | some longest =>
      if isWordAlone s start longest.position then some longest.position
      else
        (Regex.furthest (points.filter fun p =>
          start < p.position && isWordAlone s start p.position)).map (·.position)

/-- The end of the match of a pattern that starts at a position. -/
def endAt (m : LineMatcher) (s : Subject) (r : Regex) (start : Nat) : Option Nat :=
  if m.whole then
    if start = 0 then (r.longestAt s (· == s.text.size) 0).map (·.position) else none
  else if m.words then wordAt s r start
  else (r.longestAt s (fun _ => true) start).map (·.position)

/-- The first match of a pattern from a position on, looking at so many starts. -/
def findPattern (m : LineMatcher) (s : Subject) (r : Regex) : Nat → Nat → Option (Nat × Nat)
  | 0, _ => none
  | fuel + 1, start =>
      if s.text.size < start then none
      else
        match m.endAt s r start with
        | some finish => some (start, finish)
        | none => findPattern m s r fuel (start + 1)

/-- Of two matches the one that starts first, or the longer one of two that start together. -/
def better (a b : Option (Nat × Nat)) : Option (Nat × Nat) :=
  match a, b with
  | none, found | found, none => found
  | some (s, e), some (s', e') =>
      if s' < s || (s' = s && e < e') then some (s', e') else some (s, e)

/-- A line, as a pattern sees it. -/
def subject (m : LineMatcher) (line : Array Char) (r : Regex) : Subject :=
  { text := line, fold := m.fold, keepsGroups := r.looksBack }

/-- The first match in a line from a position on, with its end. -/
def findFrom (m : LineMatcher) (line : Array Char) (start : Nat) : Option (Nat × Nat) :=
  match m.rich with
  | some p => p.search line start
  | none =>
      m.patterns.foldl
        (fun found r => better found (m.findPattern (m.subject line r) r (line.size + 1) start)) none

/-- Whether a pattern has a match in a line.  Where it is enough to know that there is one, the search for
the first one is spared. -/
def patternOccurs (m : LineMatcher) (line : Array Char) (r : Regex) : Bool :=
  let s := m.subject line r
  if m.whole || s.keepsGroups then (m.findPattern s r (line.size + 1) 0).isSome
  else r.occurs s && (!m.words || (m.findPattern s r (line.size + 1) 0).isSome)

/-- Whether there is a match in a line. -/
def hasMatch (m : LineMatcher) (line : Array Char) : Bool :=
  match m.rich with
  | some p => (p.search line 0).isSome
  | none => m.patterns.any (m.patternOccurs line)

/-- The matches in a line from a position on that have characters, at most so many of them. -/
def matchesFrom (m : LineMatcher) (line : Array Char) : Nat → Nat → List (Nat × Nat)
  | 0, _ => []
  | fuel + 1, start =>
      if line.size ≤ start then []
      else
        match m.findFrom line start with
        | none => []
        | some (s, e) =>
            if line.size ≤ s then []
            else if e ≤ s then matchesFrom m line fuel (s + 1)
            else (s, e) :: matchesFrom m line fuel e

/-- The matches in a line that have characters. -/
def matchesIn (m : LineMatcher) (line : Array Char) : List (Nat × Nat) :=
  m.matchesFrom line (line.size + 1) 0

end LineMatcher

end JobShell.Machine.Utility
