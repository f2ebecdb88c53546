/-
Module: JobShell.Machine.Utility.Regex
Purpose: Search patterns and what they match.  A match is as far to the left as possible, and there as
  long as possible.
Main exports: CharSet, Regex, Regex.ends, Regex.longestAt, Regex.literal
-/
import Std.Data.HashSet

namespace JobShell.Machine.Utility

/-- A set of characters: some ranges, or everything else. -/
structure CharSet where
  negated : Bool := false
  ranges : List (Char × Char)
deriving Repr, Inhabited, DecidableEq

/-- Whether a character lies in the ranges of a set. -/
def CharSet.covers (s : CharSet) (c : Char) : Bool :=
  s.ranges.any fun r => r.1 ≤ c && c ≤ r.2

/-- Whether a set holds a character. -/
def CharSet.accepts (s : CharSet) (c : Char) : Bool :=
  s.covers c != s.negated

/-- Whether a set holds a character whatever its case.  Everything else leaves out both cases. -/
def CharSet.acceptsFolded (s : CharSet) (c : Char) : Bool :=
  (s.covers c || s.covers c.toLower || s.covers c.toUpper) != s.negated

/-- A place that matches without a character: an end of the text, or a place at a word. -/
inductive Edge where
  | start
  | finish
  | wordStart
  | wordEnd
  | word
  | noWord
deriving Repr, Inhabited, DecidableEq

/-- A pattern. -/
inductive Regex where
  | empty
  | one (set : CharSet)
  | edge (edge : Edge)
  | group (number : Nat) (body : Regex)
  | again (number : Nat)
  | sequence (first second : Regex)
  | either (first second : Regex)
  | repeated (body : Regex) (least : Nat) (most : Option Nat)
deriving Repr, Inhabited, DecidableEq

/-- A character that belongs to words. -/
def isWordChar (c : Char) : Bool :=
  c.isAlphanum || c == '_'

/-- What a pattern is matched against.  Groups are remembered only if that is asked for. -/
structure Subject where
  text : Array Char
  fold : Bool := false
  keepsGroups : Bool := false

/-- A point that a match has come to: the position, and where each group has started and ended. -/
structure Reached where
  position : Nat
  groups : List (Nat × Nat × Nat) := []
deriving Repr, Inhabited, DecidableEq, Hashable

namespace Subject

/-- Whether a word reaches up to a position from the left. -/
def wordBefore (s : Subject) (position : Nat) : Bool :=
  position != 0 && (s.text[position - 1]?).any isWordChar

/-- Whether a word goes on from a position. -/
def wordAfter (s : Subject) (position : Nat) : Bool :=
  (s.text[position]?).any isWordChar

/-- Whether a place is where an edge asks for. -/
def isAt (s : Subject) (edge : Edge) (position : Nat) : Bool :=
  match edge with
  | .start => position == 0
  | .finish => position == s.text.size
  | .wordStart => !s.wordBefore position && s.wordAfter position
  | .wordEnd => s.wordBefore position && !s.wordAfter position
  | .word => s.wordBefore position != s.wordAfter position
  | .noWord => s.wordBefore position == s.wordAfter position

/-- Whether two characters count as the same. -/
def isSame (s : Subject) (a b : Char) : Bool :=
  if s.fold then a.toLower == b.toLower else a == b

/-- A stretch of the text. -/
def stretch (s : Subject) (start finish : Nat) : List Char :=
  (s.text.extract start finish).toList

/-- The point after a stretch that stands again at a point. -/
def repeatAt (s : Subject) (r : Reached) (start finish : Nat) : Option Reached :=
  let length := finish - start
  let found := s.stretch r.position (r.position + length)
  if found.length = length && (found.zip (s.stretch start finish)).all fun p => s.isSame p.1 p.2 then
    some { r with position := r.position + length }
  else none

/-- Points without those that have been seen before, in their order, and all that have been seen then.
Where groups are not remembered, points are told apart by their positions alone. -/
def unseen (seen : Std.HashSet Reached) : List Reached → List Reached × Std.HashSet Reached
  | [] => ([], seen)
  | r :: rest =>
      if seen.contains r then unseen seen rest
      else
        let (others, all) := unseen (seen.insert r) rest
        (r :: others, all)

/-- Points, each of them once. -/
def distinct : List Reached → List Reached
  | [] => []
  | [r] => [r]
  | points => (unseen {} points).1

/-- All points that a step can reach when it is taken any number of times, or at most so many. -/
def closure (step : List Reached → List Reached) :
    Nat → Std.HashSet Reached → List Reached → List Reached → List Reached
  | 0, _, points, _ => points
  | fuel + 1, seen, points, front =>
      match unseen seen (step front) with
      | ([], _) => points
      | (next, all) => closure step fuel all (next ++ points) next

/-- A step taken so many times. -/
def iterate (step : List Reached → List Reached) : Nat → List Reached → List Reached
  | 0, points => points
  | n + 1, points => if points.isEmpty then [] else iterate step n (step points)

end Subject

namespace Regex

/-- The points that a pattern reaches from given points. -/
def run (s : Subject) : Regex → List Reached → List Reached
  | empty, points => points
  | one set, points =>
      points.filterMap fun r =>
        match s.text[r.position]? with
        | none => none
        | some c =>
            if (if s.fold then set.acceptsFolded c else set.accepts c) then
              some { r with position := r.position + 1 }
            else none
  | edge e, points => points.filter fun r => s.isAt e r.position
  | group number body, points =>
      if s.keepsGroups then
        points.flatMap fun r =>
          (run s body [r]).map fun e =>
            { e with
              groups := (number, r.position, e.position) :: e.groups.filter fun g => g.1 != number }
      else run s body points
  | again number, points =>
      points.filterMap fun r =>
        match r.groups.find? fun g => g.1 == number with
        | some (_, start, finish) => s.repeatAt r start finish
        | none => none
  | sequence first second, points => run s second (Subject.distinct (run s first points))
  | either first second, points => Subject.distinct (run s first points ++ run s second points)
  | repeated body least most, points =>
      let start := Subject.iterate (run s body) least points
      let more := (most.map (· - least)).getD (s.text.size + 1)
      let (points, seen) := Subject.unseen {} start
      Subject.closure (run s body) (min more (s.text.size + 1)) seen points start

/-- Whether there is a match anywhere.  All starts are tried together, so groups must not be remembered. -/
def occurs (s : Subject) (r : Regex) : Bool :=
  !(r.run s ((List.range (s.text.size + 1)).map fun position => { position := position })).isEmpty

/-- The points at which a match that starts at a position can end. -/
def ends (s : Subject) (r : Regex) (start : Nat) : List Reached :=
  r.run s [{ position := start }]

/-- Of some points, the first one that lies furthest on. -/
def furthest (points : List Reached) : Option Reached :=
  points.foldl (fun best r =>
    match best with
    | none => some r
    | some b => if b.position < r.position then some r else some b) none

/-- The longest match that starts at a position and ends where it may. -/
def longestAt (s : Subject) (r : Regex) (mayEnd : Nat → Bool) (start : Nat) : Option Reached :=
  furthest ((r.ends s start).filter fun e => mayEnd e.position)

/-- Whether a pattern goes back to a group. -/
def looksBack : Regex → Bool
  | again _ => true
  | group _ body => body.looksBack
  | repeated body _ _ => body.looksBack
  | sequence first second | either first second => first.looksBack || second.looksBack
  | _ => false

/-- The pattern of a text that stands for itself. -/
def literal : List Char → Regex
  | [] => empty
  | [c] => one { ranges := [(c, c)] }
  | c :: rest => sequence (one { ranges := [(c, c)] }) (literal rest)

end Regex

end JobShell.Machine.Utility
