/-
Module: JobShell.Machine.Script.Pattern
Purpose: Patterns: a star for any text, a question mark for any character, a set between brackets for one of
  several characters; a backslash takes the meaning from what follows it.  A zero character ends a text.
Main exports: Glyph, Pattern, Pattern.read, Pattern.accepts, Pattern.startLength?, Pattern.keptLength?
-/

namespace JobShell.Machine.Script

/-- A member of a set: the characters of a range, or those of a class. -/
inductive Member where
  | range (first last : Char)
  | kind (name : String)
deriving Repr, Inhabited, DecidableEq

/-- A piece of a pattern. -/
inductive Glyph where
  | anyText
  | anyChar
  | exactly (c : Char)
  | oneOf (negated : Bool) (members : List Member)
deriving Repr, Inhabited, DecidableEq

/-- A pattern. -/
abbrev Pattern := List Glyph

/-!
## Characters
-/

/-- The character that ends a text. -/
def zeroChar : Char := Char.ofNat 0

/-- The place of a byte in the order of ranges, in which the upper half comes first. -/
def signedCode (c : Char) : Int :=
  if c.toNat < 128 then c.toNat else (c.toNat : Int) - 256

/-- Whether a character is between others. -/
def isCode (low high : Nat) (c : Char) : Bool :=
  low ≤ c.toNat && c.toNat ≤ high

/-- Whether a character can be seen, and is not a blank. -/
def isVisible (c : Char) : Bool :=
  isCode 33 126 c

/-- The classes of characters by name. -/
def characterClasses : List (String × (Char → Bool)) :=
  [("alnum", Char.isAlphanum), ("cntrl", fun c => c.toNat < 32 || c.toNat = 127),
    ("lower", Char.isLower), ("space", fun c => c == ' ' || isCode 9 13 c),
    ("alpha", Char.isAlpha), ("digit", Char.isDigit), ("print", isCode 32 126),
    ("upper", Char.isUpper), ("blank", fun c => c == ' ' || c == '\t'), ("graph", isVisible),
    ("punct", fun c => isVisible c && !c.isAlphanum),
    ("xdigit", fun c => c.isDigit || isCode 65 70 c || isCode 97 102 c)]

namespace Member

/-- Whether a character is meant by a member. -/
def accepts (member : Member) (c : Char) : Bool :=
  match member with
  | range first last => decide (signedCode first ≤ signedCode c ∧ signedCode c ≤ signedCode last)
  | kind name => ((characterClasses.lookup name).map (· c)).getD false

end Member

/-- Whether a piece describes texts of any length. -/
def Glyph.spans : Glyph → Bool
  | anyText => true
  | _ => false

/-- Whether a character can stand where a piece stands. -/
def Glyph.takes (glyph : Glyph) (c : Char) : Bool :=
  match glyph with
  | anyText | anyChar => true
  | exactly d => c == d
  | oneOf negated members => members.any (·.accepts c) != negated

namespace Pattern

/-!
## Reading
-/

/-- The class that is named behind an opening bracket, and what follows it. -/
def classAt? (text : List Char) : Option (String × List Char) :=
  characterClasses.findSome? fun entry =>
    let spelled := ':' :: (entry.1.toList ++ [':', ']'])
    if spelled.isPrefixOf text then some (entry.1, text.drop spelled.length) else none

/-- A member of a set, and what follows it. -/
def memberAt (text : List Char) : Option (Member × List Char) :=
  let plain (c : Char) (rest : List Char) : Option (Member × List Char) :=
    match rest with
    | '-' :: '\\' :: d :: more => some (.range c d, more)
    | '-' :: d :: more => if d = ']' then some (.range c c, rest) else some (.range c d, more)
    | _ => some (.range c c, rest)
  match text with
  | [] => none
  | '[' :: rest =>
      match classAt? rest with
      | some (name, more) => some (.kind name, more)
      | none => plain '[' rest
  | '\\' :: c :: rest => plain c rest
  | ['\\'] => none
  | c :: rest => plain c rest

/-- The members of a set up to its closing bracket, and what follows that; a closing bracket at the very start
is a member.  Without a closing one there is no set. -/
def membersAt : Nat → List Member → List Char → Option (List Member × List Char)
  | 0, _, _ => none
  | fuel + 1, members, text =>
      match memberAt text with
      | none => none
      | some (member, rest) =>
          match rest with
          | ']' :: more => some ((member :: members).reverse, more)
          | _ => membersAt fuel (member :: members) rest

/-- The set that starts behind an opening bracket, and what follows it. -/
def setAt? (text : List Char) : Option (Glyph × List Char) :=
  match text with
  | '!' :: rest => (membersAt (rest.length + 1) [] rest).map fun found => (.oneOf true found.1, found.2)
  | _ => (membersAt (text.length + 1) [] text).map fun found => (.oneOf false found.1, found.2)

/-- The pieces of a pattern, in at most so many steps. -/
def readWithin : Nat → List Char → Pattern
  | 0, _ => []
  | _ + 1, [] => []
  | fuel + 1, '\\' :: c :: rest => .exactly c :: readWithin fuel rest
  | fuel + 1, '*' :: rest => .anyText :: readWithin fuel rest
  | fuel + 1, '?' :: rest => .anyChar :: readWithin fuel rest
  | fuel + 1, '[' :: rest =>
      match setAt? rest with
      | some (glyph, more) => glyph :: readWithin fuel more
      | none => .exactly '[' :: readWithin fuel rest
  | fuel + 1, c :: rest => .exactly c :: readWithin fuel rest

/-- Reads a pattern. -/
def read (text : List Char) : Pattern :=
  readWithin (text.length + 1) text

/-!
## Matching

For each rest of a text it is worked out which rests of the pattern describe it, from the end to the front:
a row tells that for all rests of the pattern, the whole of it first.
-/

/-- Which rests of a pattern describe the empty text. -/
def endRow : Pattern → List Bool
  | [] => [true]
  | glyph :: rest =>
      let row := endRow rest
      (glyph.spans && row.headD false) :: row

/-- Which rests of a pattern describe a text with one more character in front. -/
def nextRow (c : Char) : Pattern → List Bool → List Bool
  | [], _ => [false]
  | glyph :: rest, old =>
      let row := nextRow c rest old.tail
      (if glyph.spans then row.headD false || old.headD false
        else glyph.takes c && old.tail.headD false) :: row

/-- The row of a text. -/
def row (pattern : Pattern) (text : List Char) : List Bool :=
  text.foldr (fun c old => if c = zeroChar then endRow pattern else nextRow c pattern old)
    (endRow pattern)

/-- Whether a text is one that a pattern describes. -/
def accepts (pattern : Pattern) (text : List Char) : Bool :=
  (row pattern text).headD false

/-- For a text and each of its rests, whether it is one that a pattern describes. -/
def acceptedRests (pattern : Pattern) (text : List Char) : List Bool :=
  (text.foldr (fun c (soFar : List Bool × List Bool) =>
    let new := if c = zeroChar then endRow pattern else nextRow c pattern soFar.1
    (new, new.headD false :: soFar.2))
    (endRow pattern, [(endRow pattern).headD false])).2

/-- How many characters at the start of a text a pattern describes: as many as possible, or as few.  The
pattern is compared up to a zero character only; where it describes all up to there, it is taken to describe
the whole text at the most. -/
def startLength? (pattern : Pattern) (longest : Bool) (text : List Char) : Option Nat :=
  let seen := text.takeWhile (· != zeroChar)
  let found := (acceptedRests pattern.reverse seen.reverse).reverse
  if !longest then found.findIdx? id
  else if found.getLast? = some true then some text.length
  else (found.reverse.findIdx? id).map (seen.length - ·)

/-- How much of a text is left when what a pattern describes is taken off its end: as much of it as
possible, or as little. -/
def keptLength? (pattern : Pattern) (longest : Bool) (text : List Char) : Option Nat :=
  let found := acceptedRests pattern text
  if longest then
    (found.take ((text.takeWhile (· != zeroChar)).length + 1)).findIdx? id
  else (found.reverse.findIdx? id).map (text.length - ·)

end Pattern

end JobShell.Machine.Script
