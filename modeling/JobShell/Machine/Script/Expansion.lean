/-
Module: JobShell.Machine.Script.Expansion
Purpose: Working out words: parameters, commands and expressions are replaced by what they stand for, then
  the word comes apart into fields, and fields that are patterns are replaced by the names of files.
Main exports: expandFields, expandText, expandPattern, expandDocument
-/
import JobShell.Machine.Script.Arithmetic
import JobShell.Machine.Script.Globbing
import JobShell.Machine.Script.Splitting
import JobShell.Machine.Script.Words

namespace JobShell.Machine.Script

/-!
## Characters and parameters
-/

/-- How a word is worked out: whether it will come apart into fields, whether what it gets from outside is
quoted, whether it is the word of a parameter, so that its own blanks separate too, and whether it gives a
variable a value, with the equals sign behind or still ahead. -/
structure Manner where
  fields : Bool := false
  quoted : Bool := false
  inWord : Bool := false
  assignment : Bool := false
  afterEquals : Bool := false
deriving Repr, Inhabited, DecidableEq

/-- A character that comes from outside.  In quotes it loses its meaning if it has one. -/
def cellOf (quoted : Bool) (c : Char) : Cell :=
  if isReserved c || (quoted && (c == '\\' || guardedInQuotes.contains c)) then .guarded c else .char c

/-- Characters that come from outside. -/
def cellsOf (quoted : Bool) (chars : List Char) : List Cell :=
  chars.map (cellOf quoted)

/-- The separators of fields. -/
def separatorsOf (s : ScriptState) : List Char :=
  (s.value? "IFS").getD usualSeparators

/-- What stands between the positional parameters when they are taken together: a zero character if they
become fields of their own, else the first separator, if there is one. -/
def joinerOf (s : ScriptState) (m : Manner) (apart : Bool) : Option Char :=
  if apart && m.fields && m.quoted then some zeroChar
  else
    match s.value? "IFS" with
    | none => some ' '
    | some separators => if m.fields && !m.quoted then some zeroChar else separators.head?

/-- The positional parameters taken together. -/
def joinedPositional (s : ScriptState) (m : Manner) (apart : Bool) : List Char :=
  match joinerOf s m apart with
  | some c => [c].intercalate s.positional.words
  | none => s.positional.words.flatten

/-- The digits of a number. -/
def digitsOf (n : Nat) : List Char :=
  Nat.toDigits 10 n

/-- The value of a parameter, unless it is unset. -/
def parameterValue (s : ScriptState) (m : Manner) (name : List Char) : Option (List Char) :=
  match name with
  | ['$'] => some (digitsOf s.number)
  | ['?'] => some (digitsOf s.status)
  | ['#'] => some (digitsOf s.positional.words.length)
  | ['!'] => s.lastDetached.map digitsOf
  | ['-'] => some (switchLetters s.switches)
  | ['@'] => some (joinedPositional s m true)
  | ['*'] => some (joinedPositional s m false)
  | ['0'] => some s.name
  | _ =>
      if name.all Char.isDigit then
        match Utility.digitsValue 10 name with
        | 0 => some s.name
        | n + 1 => s.positional.words[n]?
      else s.bindings.value? name

/-!
## Home directories
-/

/-- The home directories of the accounts that every system has. -/
def accountHomes : List (String × String) :=
  [("root", "/root"), ("daemon", "/usr/sbin"), ("bin", "/bin"), ("sys", "/dev"), ("sync", "/bin"),
    ("games", "/usr/games"), ("man", "/var/cache/man"), ("lp", "/var/spool/lpd"),
    ("mail", "/var/mail"), ("news", "/var/spool/news"), ("uucp", "/var/spool/uucp"),
    ("proxy", "/bin"), ("www-data", "/var/www"), ("backup", "/var/backups"), ("list", "/var/list"),
    ("irc", "/run/ircd"), ("_apt", "/nonexistent"), ("nobody", "/nonexistent")]

/-- The home directory that a name behind a tilde stands for; none at all is the one of the script. -/
def homeOf (s : ScriptState) (name : List Char) : Option (List Char) :=
  if name.isEmpty then s.value? "HOME"
  else (accountHomes.find? fun entry => entry.1.toList == name).map fun entry => entry.2.toList

/-- The name behind a tilde, and the parts behind it; there is none if anything but plain characters stands
in it. -/
def tildeName? (assignment : Bool) : List Part → Option (List Char × List Part)
  | [] => some ([], [])
  | .char c :: rest =>
      if c = '/' || (assignment && c = ':') then some ([], .char c :: rest)
      else (tildeName? assignment rest).map fun found => (c :: found.1, found.2)
  | _ :: _ => none

/-- Replaces a tilde at the front of some parts. -/
def expandTilde (s : ScriptState) (m : Manner) (parts : List Part) (x : Expanded) :
    Expanded × List Part :=
  match parts with
  | .char '~' :: rest =>
      match tildeName? m.assignment rest with
      | none => (x, parts)
      | some (name, behind) =>
          match homeOf s name with
          | none => (x, parts)
          | some home => (x.addAll (cellsOf true home), behind)
  | _ => (x, parts)

/-- What is behind a tilde is part of what stood there. -/
theorem sizeOf_tildeName? (assignment : Bool) (parts : List Part) (found : List Char × List Part)
    (h : tildeName? assignment parts = some found) : sizeOf found.2 ≤ sizeOf parts := by
  induction parts generalizing found with
  | nil =>
    simp [tildeName?] at h
    subst h
    exact Nat.le_refl _
  | cons part rest ih =>
    cases part with
    | char c =>
      unfold tildeName? at h
      split at h
      · cases h
        exact Nat.le_refl _
      · obtain ⟨inner, hi, rfl⟩ := Option.map_eq_some_iff.1 h
        have := ih inner hi
        simp only [List.cons.sizeOf_spec]
        omega
    | _ => simp [tildeName?] at h

/-- Replacing a tilde makes nothing longer that is still to be worked out. -/
theorem sizeOf_expandTilde (s : ScriptState) (m : Manner) (parts : List Part) (x : Expanded) :
    sizeOf (expandTilde s m parts x).2 ≤ sizeOf parts := by
  unfold expandTilde
  split
  · rename_i rest
    split
    · exact Nat.le_refl _
    · rename_i name behind h
      split
      · exact Nat.le_refl _
      · have := sizeOf_tildeName? _ _ _ h
        simp only [List.cons.sizeOf_spec]
        simp only at this
        omega
  · exact Nat.le_refl _

/-!
## Parameters
-/

/-- A word that is being worked out, and whether it is between quotes there. -/
structure Place where
  expanded : Expanded := {}
  quoted : Bool := false
  /-- Where the plain characters at hand begin. -/
  run : Nat := 0
deriving Inhabited

/-- Ends the plain characters at hand.  In the word of a parameter they come apart at blanks. -/
def Place.endRun (place : Place) (m : Manner) : Place :=
  let size := place.expanded.cells.size
  let expanded :=
    if m.inWord && !m.quoted && !place.quoted && place.run < size then
      place.expanded.region place.run false
    else place.expanded
  { place with expanded := expanded, run := size }

/-- Adds a cell that does not belong to the plain characters. -/
def Place.put (place : Place) (cell : Cell) : Place :=
  let expanded := place.expanded.add cell
  { place with expanded := expanded, run := expanded.cells.size }

/-- Goes on with a word. -/
def Place.goOn (place : Place) (expanded : Expanded) : Place :=
  { place with expanded := expanded, run := expanded.cells.size }

/-- Notes that the value of a parameter comes apart; a quoted one does not, but for the positional
parameters. -/
def noteValue (s : ScriptState) (m : Manner) (name : List Char) (start : Nat) (x : Expanded) :
    Expanded :=
  if !m.quoted then x.region start false
  else if name.head? = some '@' && !s.positional.words.isEmpty then x.region start true
  else x

/-- Adds the value of a parameter. -/
def addValue (s : ScriptState) (m : Manner) (name value : List Char) (x : Expanded) : Expanded :=
  noteValue s m name x.cells.size (x.addAll (cellsOf m.quoted value))

/-- What is said of a parameter that is unset. -/
def unsetText (name : List Char) : List Char :=
  name ++ ": parameter not set".toList

/-- Adds the value of a parameter, which may have to be set. -/
def addPlain (m : Manner) (name : List Char) (x : Expanded) : Expanding Expanded := do
  let s ← Expanding.state
  match parameterValue s m name with
  | some value => return addValue s m name value x
  | none => if s.has .nounset then Expanding.fail (unsetText name) else return x

/-- Sets a variable. -/
def assignVariable (name value : List Char) : Expanding Unit := do
  let s ← Expanding.state
  match s.assign name (some value) {} with
  | .ok s' => Expanding.change fun _ => s'
  | .error text => Expanding.fail text

/-- What is left of the value of a parameter when what a pattern describes is cut off. -/
def cutValue (use : ParameterUse) (pattern : Pattern) (value : List Char) : List Char :=
  match use with
  | .cutStart longest => value.drop ((pattern.startLength? longest value).getD 0)
  | .cutEnd longest =>
      match pattern.keptLength? longest value with
      | some kept => value.take kept
      | none => value
  | _ => value

/-- Adds the output of a command, less the line ends at its end. -/
def addOutput (m : Manner) (output : List Char) (x : Expanded) : Expanded :=
  let kept := ((output.filter (· != zeroChar)).reverse.dropWhile (· == '\n')).reverse
  let start := x.cells.size
  let added := x.addAll (cellsOf m.quoted kept)
  if m.quoted then added else added.region start false

/-- Adds a number. -/
def addNumber (m : Manner) (n : Int) (x : Expanded) : Expanded :=
  let start := x.cells.size
  let added := x.addAll (cellsOf m.quoted (toString n).toList)
  if m.quoted then added else added.region start false

/-!
## Words
-/

/-- What follows the positional parameters, if they stand between quotes by themselves. -/
def behindPositional? : List Part → Option (List Part)
  | .parameter ['@'] .plain false _ :: .mark :: more => some more
  | _ => none

/-- What follows the positional parameters is part of what stood there. -/
theorem sizeOf_behindPositional? (parts more : List Part) (h : behindPositional? parts = some more) :
    sizeOf more < sizeOf parts := by
  unfold behindPositional? at h
  split at h
  · cases h
    simp only [List.cons.sizeOf_spec]
    omega
  · cases h

mutual

/-- Works out parts behind others, beginning with a tilde if they do. -/
def expandFrom (m : Manner) (place : Place) (parts : List Part) : Expanding Place := fun w s =>
  have : sizeOf (expandTilde s m parts place.expanded).2 ≤ sizeOf parts :=
    sizeOf_expandTilde s m parts place.expanded
  expandParts m (place.goOn (expandTilde s m parts place.expanded).1)
    (expandTilde s m parts place.expanded).2 w s
termination_by 2 * sizeOf parts + 1

/-- Works out parts behind others. -/
def expandParts (m : Manner) (place : Place) (parts : List Part) : Expanding Place :=
  match parts with
  | [] => pure (place.endRun m)
  | .char c :: rest =>
      let added := { place with expanded := place.expanded.add (.char c) }
      if m.assignment && (c = ':' || (c = '=' && !m.afterEquals)) then
        expandFrom { m with afterEquals := m.afterEquals || c == '=' } (added.endRun m) rest
      else expandParts m added rest
  | .guarded c :: rest => expandParts m ((place.endRun m).put (.guarded c)) rest
  | .mark :: rest =>
      let ended := place.endRun m
      match h : if ended.quoted then none else behindPositional? rest with
      | some more => do
          have : sizeOf more < sizeOf rest := sizeOf_behindPositional? rest more (by grind)
          let x ← addPlain { m with quoted := true } ['@'] ended.expanded
          expandParts m (ended.goOn x) more
      | none => expandParts m { ended.put .mark with quoted := !ended.quoted } rest
  | .parameter name use colon word :: rest => do
      let ended := place.endRun m
      let inner := { m with quoted := m.quoted || ended.quoted }
      if use = .plain && colon then
        let x ← addPlain inner name ended.expanded
        expandParts m (ended.goOn x) word
      else
        let x ← expandParameter inner ended.expanded name use colon word
        expandParts m (ended.goOn x) rest
  | .command body :: rest => do
      let ended := place.endRun m
      let output ← match body with
        | none => pure []
        | some statement => Expanding.outputOf (some statement)
      let x := addOutput { m with quoted := m.quoted || ended.quoted } output ended.expanded
      expandParts m (ended.goOn x) rest
  | .arithmetic expression :: rest => do
      let ended := place.endRun m
      let text ← expandParts {} {} expression
      let n ← evaluateArithmetic text.expanded.text
      let x := addNumber { m with quoted := m.quoted || ended.quoted } n ended.expanded
      expandParts m (ended.goOn x) rest
termination_by 2 * sizeOf parts

/-- Works out a parameter behind other parts. -/
def expandParameter (m : Manner) (x : Expanded) (name : List Char) (use : ParameterUse) (colon : Bool)
    (word : List Part) : Expanding Expanded := do
  let s ← Expanding.state
  let value := (parameterValue s m name).filter fun value => !(colon && value.isEmpty)
  let inner : Expanding Expanded := do
    let place ← expandFrom { m with inWord := true } { expanded := x, run := x.cells.size } word
    return place.expanded
  let apart : Expanding (List Char) := do
    let place ← expandFrom {} {} word
    return place.expanded.text.takeWhile (· != zeroChar)
  match use with
  | .unknown => Expanding.fail "Bad substitution".toList
  | .plain => addPlain m name x
  | .length =>
      if value.isNone && s.has .nounset then Expanding.fail (unsetText name)
      else
        let digits := digitsOf ((value.getD []).length)
        return noteValue s m name x.cells.size (x.addAll (cellsOf m.quoted digits))
  | .ifSet =>
      match value with
      | some _ => inner
      | none => return noteValue s m name x.cells.size x
  | .orElse =>
      match value with
      | some text => return addValue s m name text x
      | none => inner
  | .orAssign =>
      match value with
      | some text => return addValue s m name text x
      | none => do
          assignVariable name (← apart)
          addPlain m name x
  | .orFail =>
      match value with
      | some text => return addValue s m name text x
      | none => do
          let text ← apart
          let said :=
            if word.isEmpty then "parameter not set".toList ++ (if colon then " or null".toList else [])
            else text
          Expanding.fail (name ++ [':', ' '] ++ said)
  | .cutEnd _ | .cutStart _ =>
      match value with
      | none => if s.has .nounset then Expanding.fail (unsetText name) else return x
      | some text => do
          let place ← expandFrom {} {} word
          let pattern := Pattern.read (patternText place.expanded.cells.toList)
          let s' ← Expanding.state
          return addValue s' m name (cutValue use pattern text) x
termination_by 2 * sizeOf word + 2

end

/-!
## What words come to
-/

/-- The fields of a word: names of files where one is a pattern that describes some. -/
def expandFields (word : Word) : Expanding (List (List Char)) := do
  let place ← expandFrom { fields := true } {} word
  let s ← Expanding.state
  let w ← Expanding.surroundings
  return (place.expanded.fields (separatorsOf s) none).flatMap fun cells =>
    let text := rawText cells
    let paths :=
      if s.has .noglob || !text.any (fun c => c == '*' || c == '?' || c == '[') then []
      else pathsOf w (patternText cells)
    if paths.isEmpty then [text] else paths

/-- A word that stays together. -/
def expandText (word : Word) : Expanding (List Char) := do
  let place ← expandFrom {} {} word
  return place.expanded.text

/-- A word that gives a variable a value. -/
def expandAssignment (word : Word) : Expanding (List Char) := do
  let place ← expandParts { assignment := true } {} word
  return place.expanded.text

/-- A word as a pattern. -/
def expandPattern (word : Word) : Expanding Pattern := do
  let place ← expandFrom {} {} word
  return Pattern.read (patternText place.expanded.cells.toList)

/-- A text from behind a line. -/
def expandDocument (text : Word) : Expanding (List Char) := do
  let place ← expandParts { quoted := true } {} text
  return place.expanded.text

/-- The fields of words. -/
def expandWords : List Word → Expanding (List (List Char))
  | [] => pure []
  | word :: rest => do
      let fields ← expandFields word
      let more ← expandWords rest
      return fields ++ more

end JobShell.Machine.Script
