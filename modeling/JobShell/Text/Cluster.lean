/-
Module: JobShell.Text.Cluster
Purpose: User-perceived characters.  A text is cut before every character unless a rule keeps it
  together with what stands before it: a carriage return with its line feed, jamo of one syllable, marks
  with their base, joined pictographs, the two halves of a flag, and the consonants of a conjunct.
Main exports: ClusterClass, clusters
-/
import JobShell.Text.Property.ClusterBreak
import JobShell.Text.Property.CombiningExtend

namespace JobShell.Text

open Property

/-- The class of a character for cutting. -/
inductive ClusterClass where
  | carriageReturn
  | lineFeed
  | control
  | extend
  | joiner
  | regional
  | prepend
  | spacing
  | leading
  | vowel
  | trailing
  | syllableOpen
  | syllableClosed
  | other
deriving Repr, Inhabited, DecidableEq

namespace ClusterClass

/-- Whether a character is a precomposed syllable. -/
def isSyllable (code : Nat) : Bool :=
  0xAC00 ≤ code && code ≤ 0xD7A3

/-- The skin-tone modifiers extend the pictograph before them. -/
def isToneModifier (code : Nat) : Bool :=
  0x1F3FB ≤ code && code ≤ 0x1F3FF

/-- The narrow voicing marks extend the syllable before them. -/
def isVoicingMark (code : Nat) : Bool :=
  code = 0xFF9E || code = 0xFF9F

/-- The class of a character. -/
def ofChar (c : Char) : ClusterClass :=
  let code := c.toNat
  if c = '\r' then carriageReturn
  else if c = '\n' then lineFeed
  else if 0x20 ≤ code && code < 0x7F then other
  else if code = 0x200D then joiner
  else if inRanges controlRanges code then control
  else if isCombining c || isToneModifier code || isVoicingMark code then extend
  else if 0x1F1E6 ≤ code && code ≤ 0x1F1FF then regional
  else if inRanges prependRanges code then prepend
  else if inRanges spacingRanges code then spacing
  else if inRanges leadingRanges code then leading
  else if inRanges vowelRanges code then vowel
  else if inRanges trailingRanges code then trailing
  else if isSyllable code then
    if (code - 0xAC00) % 28 = 0 then syllableOpen else syllableClosed
  else other

/-- Controls and line ends stand alone. -/
def standsAlone : ClusterClass → Bool
  | carriageReturn | lineFeed | control => true
  | _ => false

/-- Whether jamo and syllables continue one syllable. -/
def continuesSyllable : ClusterClass → ClusterClass → Bool
  | leading, leading | leading, vowel | leading, syllableOpen | leading, syllableClosed => true
  | syllableOpen, vowel | syllableOpen, trailing | vowel, vowel | vowel, trailing => true
  | syllableClosed, trailing | trailing, trailing => true
  | _, _ => false

end ClusterClass

/-- How far the text before a cut has got towards a conjunct. -/
inductive Conjunct where
  | none
  | consonant
  | linked
deriving Repr, Inhabited, DecidableEq

/-- What a cut has to know of the text before it: the class of the last character, whether the text ends
in a pictograph with its marks, or in one with marks and a joiner, whether an odd number of regional
indicators ends it, and how far a conjunct has got. -/
structure ClusterContext where
  last : ClusterClass
  pictograph : Bool
  joined : Bool
  oddRegional : Bool
  conjunct : Conjunct
deriving Repr, Inhabited, DecidableEq

namespace ClusterContext

/-- Whether a character takes part in a conjunct as a consonant. -/
def isConsonant (c : Char) : Bool :=
  inRanges conjunctConsonantRanges c.toNat

/-- The conjunct state after a character: marks keep it, a linker advances it, all else ends it. -/
def nextConjunct (before : Conjunct) (c : Char) (class_ : ClusterClass) : Conjunct :=
  if isConsonant c then .consonant
  else
    match before with
    | .none => .none
    | _ =>
        if inRanges conjunctLinkerRanges c.toNat then .linked
        else if (class_ = .extend && c.toNat ≠ 0x200C) || class_ = .joiner then before
        else .none

/-- The context after a character that follows a context, if any. -/
def step (before : Option ClusterContext) (c : Char) : ClusterContext :=
  let class_ := ClusterClass.ofChar c
  let pictographBefore := before.any (·.pictograph)
  { last := class_
    pictograph :=
      inRanges pictographRanges c.toNat || (class_ = .extend && pictographBefore)
    joined := class_ = .joiner && pictographBefore
    oddRegional := class_ = .regional && !(before.any (·.oddRegional))
    conjunct := nextConjunct (before.elim .none (·.conjunct)) c class_ }

/-- Whether a character stays together with the text before it. -/
def keeps (before : ClusterContext) (c : Char) : Bool :=
  let next := ClusterClass.ofChar c
  if before.last = .carriageReturn && next = .lineFeed then true
  else if before.last.standsAlone || next.standsAlone then false
  else if before.last.continuesSyllable next then true
  else if next = .extend || next = .joiner || next = .spacing then true
  else if before.last = .prepend then true
  else if before.conjunct = .linked && isConsonant c then true
  else if before.joined && inRanges pictographRanges c.toNat then true
  else before.last = .regional && next = .regional && before.oddRegional

end ClusterContext

/-- Cuts the rest of a text, `current` holding the present cluster from its end. -/
def cutClusters (before : Option ClusterContext) (current : List Char) :
    List Char → List (List Char)
  | [] => if current.isEmpty then [] else [current.reverse]
  | c :: rest =>
      let after := some (ClusterContext.step before c)
      if current.isEmpty || before.any (·.keeps c) then cutClusters after (c :: current) rest
      else current.reverse :: cutClusters after [c] rest

/-- The user-perceived characters of a text. -/
def clusters (text : List Char) : List (List Char) :=
  cutClusters none [] text

end JobShell.Text
