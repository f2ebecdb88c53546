/-
Module: JobShell.Machine.Utility.RichRegex
Purpose: Search patterns that say in which order their possibilities are tried, and what they match: the
  first possibility with which the whole pattern fits.
Main exports: RichRegex, RichPattern, RichPattern.search
-/
import JobShell.Machine.Utility.Regex

namespace JobShell.Machine.Utility

/-- A group, by its number or by its name. -/
inductive GroupName where
  | number (n : Nat)
  | name (text : List Char)
deriving Repr, Inhabited, DecidableEq

/-- A place that matches without a character. -/
inductive RichEdge where
  | textStart
  | textEnd
  /-- The end of the text, or a line end that is the last character. -/
  | lastLineEnd
  | lineStart
  | lineEnd
  | word
  | noWord
  /-- Where the search has started. -/
  | searchStart
deriving Repr, Inhabited, DecidableEq

/-- Where a search goes on once a possibility has been given up for good. -/
inductive Resumption where
  | nowhere
  | nextStart
  | here
deriving Repr, Inhabited, DecidableEq

/-- A pattern.  Of two possibilities the first one is tried first. -/
inductive RichRegex where
  | empty
  | never
  | one (set : CharSet) (fold : Bool)
  | edge (edge : RichEdge)
  | group (number : Nat) (body : RichRegex)
  | again (group : GroupName) (fold : Bool)
  | sequence (first second : RichRegex)
  | either (first second : RichRegex)
  /-- Repetitions, as many as possible first if `greedy` is on, as few as possible else. -/
  | repeated (body : RichRegex) (least : Nat) (most : Option Nat) (greedy : Bool)
  /-- A part that keeps the first possibility it finds. -/
  | settled (body : RichRegex)
  /-- A look at what stands here, which takes nothing. -/
  | look (wanted : Bool) (body : RichRegex)
  /-- A step back. -/
  | back (count : Nat)
  /-- A part that has to end here.  It fits only once the steps back in front of it are known. -/
  | behind (body : RichRegex)
  /-- What has been matched up to here does not count. -/
  | restart
  /-- One of two patterns, by whether a group has been matched. -/
  | choice (group : GroupName) (yes no : RichRegex)
  /-- The pattern of a group once more; group zero is the whole. -/
  | call (group : GroupName)
  | cut (resumption : Resumption)
deriving Repr, Inhabited, DecidableEq

/-- A pattern with the names of its groups. -/
structure RichPattern where
  body : RichRegex
  names : List (List Char × Nat) := []
deriving Repr, Inhabited, DecidableEq

/-- A point that a match has come to: the position, the start that will be told, and where each group has
started and ended. -/
structure RichSpot where
  position : Nat
  start : Nat
  groups : List (Nat × Nat × Nat) := []
deriving Repr, Inhabited, DecidableEq

/-- What has become of a possibility: it fits, it does not, or nothing else is to be tried from this start,
and the search goes on at another one, if at all. -/
inductive RichOutcome where
  | found (spot : RichSpot)
  | failed
  | cut (resume : Option Nat)
deriving Repr, Inhabited, DecidableEq

/-- What comes next, unless this is the end. -/
def RichOutcome.orElse (o : RichOutcome) (next : Unit → RichOutcome) : RichOutcome :=
  match o with
  | .failed => next ()
  | other => other

namespace RichRegex

/-- The body of a group. -/
def group? (number : Nat) : RichRegex → Option RichRegex
  | group n body => if n = number then some body else body.group? number
  | sequence first second | either first second | choice _ first second =>
      (first.group? number).orElse fun _ => second.group? number
  | repeated body _ _ _ | settled body | look _ body | behind body => body.group? number
  | _ => none

/-- The set of a pattern that takes a single character and nothing else. -/
def single? : RichRegex → Option (CharSet × Bool)
  | one set fold => some (set, fold)
  | _ => none

end RichRegex

namespace RichPattern

/-- The number of a group. -/
def number? (p : RichPattern) : GroupName → Option Nat
  | .number n => some n
  | .name text => p.names.lookup text

/-- The pattern of a group. -/
def bodyOf? (p : RichPattern) (g : GroupName) : Option RichRegex :=
  (p.number? g).bind fun n => if n = 0 then some p.body else p.body.group? n

/-- Where a group has been matched. -/
def matched? (p : RichPattern) (s : RichSpot) (g : GroupName) : Option (Nat × Nat) :=
  (p.number? g).bind fun n => s.groups.lookup n

/-- Whether a place is where an edge asks for; `origin` is where the search has started. -/
def isAt (text : Array Char) (origin : Nat) (edge : RichEdge) (position : Nat) : Bool :=
  let s : Subject := { text := text }
  match edge with
  | .textStart => position == 0
  | .textEnd => position == text.size
  | .lastLineEnd =>
      position == text.size || (position + 1 == text.size && text[position]? == some '\n')
  | .lineStart => position == 0 || text[position - 1]? == some '\n'
  | .lineEnd => position == text.size || text[position]? == some '\n'
  | .word => s.isAt .word position
  | .noWord => s.isAt .noWord position
  | .searchStart => position == origin

/-- A step that is taken so many times before what comes next. -/
def times (step : RichSpot → (RichSpot → RichOutcome) → RichOutcome) :
    Nat → (RichSpot → RichOutcome) → RichSpot → RichOutcome
  | 0, next, s => next s
  | n + 1, next, s => step s (times step n next)

/-- A step that is taken at most so many times before what comes next.  It is not taken again once it has
taken no character. -/
def atMost (step : RichSpot → (RichSpot → RichOutcome) → RichOutcome) (greedy : Bool) :
    Nat → (RichSpot → RichOutcome) → RichSpot → RichOutcome
  | 0, next, s => next s
  | n + 1, next, s =>
      let more (_ : Unit) : RichOutcome :=
        step s fun e => if e.position = s.position then next e else atMost step greedy n next e
      if greedy then (more ()).orElse fun _ => next s else (next s).orElse more

/-- What comes next after so many characters, or after fewer of them, down to so many. -/
def fewer (next : RichSpot → RichOutcome) (s : RichSpot) (least : Nat) : Nat → RichOutcome
  | 0 => next s
  | n + 1 =>
      (next { s with position := s.position + (n + 1) }).orElse fun _ =>
        if n < least then .failed else fewer next s least n

/-- What comes next after so many characters, or after up to so many more of them. -/
def further (next : RichSpot → RichOutcome) (s : RichSpot) (count : Nat) : Nat → RichOutcome
  | 0 => next { s with position := s.position + count }
  | n + 1 =>
      (next { s with position := s.position + count }).orElse fun _ => further next s (count + 1) n

/-- How many characters from a position on belong to a set, at most so many. -/
def run (text : Array Char) (accepts : Char → Bool) (position : Nat) : Nat → Nat
  | 0 => 0
  | n + 1 => if (text[position]?).any accepts then run text accepts (position + 1) n + 1 else 0

/-- Whether a set takes a character. -/
def takes (set : CharSet) (fold : Bool) (c : Char) : Bool :=
  if fold then set.acceptsFolded c else set.accepts c

/-- The point after a stretch that stands again at a point. -/
def repeatAt (text : Array Char) (fold : Bool) (s : RichSpot) (start finish : Nat) : Option RichSpot :=
  let subject : Subject := { text := text, fold := fold }
  (subject.repeatAt { position := s.position } start finish).map fun r =>
    { s with position := r.position }

/-- What becomes of a pattern at a point, with what comes next.  The number tells how deep patterns of
groups may call each other. -/
def go (p : RichPattern) (text : Array Char) (origin : Nat) :
    Nat → RichRegex → RichSpot → (RichSpot → RichOutcome) → RichOutcome
  | _, .empty, s, next => next s
  | _, .never, _, _ => .failed
  | _, .one set fold, s, next =>
      match text[s.position]? with
      | some c => if takes set fold c then next { s with position := s.position + 1 } else .failed
      | none => .failed
  | _, .edge e, s, next => if isAt text origin e s.position then next s else .failed
  | depth, .group n body, s, next =>
      p.go text origin depth body s fun e =>
        next { e with groups := (n, s.position, e.position) :: e.groups.filter fun g => g.1 != n }
  | _, .again g fold, s, next =>
      match p.matched? s g with
      | some (start, finish) => ((repeatAt text fold s start finish).map next).getD .failed
      | none => .failed
  | depth, .sequence first second, s, next =>
      p.go text origin depth first s fun e => p.go text origin depth second e next
  | depth, .either first second, s, next =>
      (p.go text origin depth first s next).orElse fun _ => p.go text origin depth second s next
  | depth, .repeated body least most greedy, s, next =>
      let room := text.size + 1 - s.position
      match body.single? with
      | some (set, fold) =>
          let count := run text (takes set fold) s.position (min (most.getD room) room)
          if count < least then .failed
          else if greedy then fewer next s least count
          else further next s least (count - least)
      | none =>
          let step (s : RichSpot) (next : RichSpot → RichOutcome) : RichOutcome :=
            p.go text origin depth body s next
          times step least (atMost step greedy (min ((most.map (· - least)).getD room) room) next) s
  | depth, .settled body, s, next =>
      match p.go text origin depth body s .found with
      | .found e => next e
      | _ => .failed
  | depth, .look wanted body, s, next =>
      match p.go text origin depth body s .found with
      | .found e => if wanted then next { e with position := s.position } else .failed
      | _ => if wanted then .failed else next s
  | _, .back n, s, next =>
      if n ≤ s.position then next { s with position := s.position - n } else .failed
  | _, .behind _, _, _ => .failed
  | _, .restart, s, next => next { s with start := s.position }
  | depth, .choice g yes no, s, next =>
      if (p.matched? s g).isSome then p.go text origin depth yes s next
      else p.go text origin depth no s next
  | 0, .call _, _, _ => .failed
  | depth + 1, .call g, s, next =>
      match p.bodyOf? g with
      | some body => p.go text origin depth body s fun e => next { e with groups := s.groups }
      | none => .failed
  | _, .cut resumption, s, next =>
      (next s).orElse fun _ =>
        match resumption with
        | .nowhere => .cut none
        | .nextStart => .cut (some 0)
        | .here => .cut (some s.position)
termination_by depth r => (depth, sizeOf r)

/-- The first match from a position on, looking at so many starts, with its end. -/
def searchFrom (p : RichPattern) (text : Array Char) (origin : Nat) : Nat → Nat → Option (Nat × Nat)
  | 0, _ => none
  | fuel + 1, start =>
      if text.size < start then none
      else
        match p.go text origin (text.size + 1) p.body { position := start, start := start } .found with
        | .found e => some (e.start, e.position)
        | .failed => searchFrom p text origin fuel (start + 1)
        | .cut none => none
        | .cut (some other) => searchFrom p text origin fuel (max other (start + 1))

/-- The first match from a position on, with its end. -/
def search (p : RichPattern) (text : Array Char) (start : Nat) : Option (Nat × Nat) :=
  p.searchFrom text start (text.size + 1) start

end RichPattern

end JobShell.Machine.Utility
