/-
Module: JobShell.Machine.Script.Syntax
Purpose: The commands of scripts.  Characters stand for bytes: each has a code below 256.
Main exports: ParameterUse, Part, Word, Redirect, Statement, isNameStart, isNameChar, isName
-/

namespace JobShell.Machine.Script

/-- What is made of the value of a parameter.  A use that nobody knows is an error, but only once it is
reached. -/
inductive ParameterUse where
  | unknown
  | plain
  | length
  | orElse
  | orAssign
  | orFail
  | ifSet
  | cutEnd (longest : Bool)
  | cutStart (longest : Bool)
deriving Repr, Inhabited, DecidableEq

/-- The ways to open a file for a redirection. -/
inductive FileUse where
  | read
  | readWrite
  | write
  | overwrite
  | append
deriving Repr, Inhabited, DecidableEq

mutual

/-- A part of a word.  A guarded character stands for itself, whatever it means elsewhere; a mark stands
where a quote begins or ends.  With `colon` a parameter that is empty counts as unset. -/
inductive Part where
  | char (c : Char)
  | guarded (c : Char)
  | mark
  | parameter (name : List Char) (use : ParameterUse) (colon : Bool) (word : List Part)
  | command (body : Option Statement)
  | arithmetic (expression : List Part)

/-- A redirection of a descriptor: to a file, to what a word names (a descriptor, or nothing at all), or to
a text in the script, which is kept in a table of such texts. -/
inductive Redirect where
  | file (descriptor : Nat) (use : FileUse) (path : List Part)
  | copy (descriptor : Nat) (source : List Part)
  | document (descriptor : Nat) (expands : Bool) (place : Nat)

/-- A command. -/
inductive Statement where
  | simple (line : Nat) (assignments words : List (List Part)) (redirects : List Redirect)
  | pipeline (background : Bool) (commands : List (Option Statement))
  | redirected (line : Nat) (body : Option Statement) (redirects : List Redirect)
  | detached (line : Nat) (body : Option Statement) (redirects : List Redirect)
  | subshell (line : Nat) (body : Option Statement) (redirects : List Redirect)
  | sequence (first second : Option Statement)
  | both (first second : Option Statement)
  | either (first second : Option Statement)
  | negated (body : Option Statement)
  | choice (condition yes no : Option Statement)
  | loop (untilTrue : Bool) (condition body : Option Statement)
  | each (line : Nat) (name : List Char) (words : List (List Part)) (body : Option Statement)
  | select (line : Nat) (subject : List Part) (arms : List (List (List Part) × Option Statement))
  | define (line : Nat) (name : List Char) (body : Option Statement)

end

instance : Inhabited Part := ⟨.mark⟩

instance : Inhabited Statement := ⟨.sequence none none⟩

/-- A word as written. -/
abbrev Word := List Part

/-!
## Names
-/

/-- The first character of a name. -/
def isNameStart (c : Char) : Bool :=
  c.isAlpha || c == '_'

/-- A further character of a name. -/
def isNameChar (c : Char) : Bool :=
  c.isAlphanum || c == '_'

/-- Whether a variable can have a name. -/
def isName (name : List Char) : Bool :=
  name.head?.any isNameStart && name.all isNameChar

/-- The name at the start of a text, and what follows it. -/
def splitName (text : List Char) : List Char × List Char :=
  match text with
  | c :: _ => if isNameStart c then text.span isNameChar else ([], text)
  | [] => ([], [])

/-- The characters of a word that is nothing but ordinary characters. -/
def plainWord? : Word → Option (List Char)
  | [] => some []
  | .char c :: rest => (plainWord? rest).map (c :: ·)
  | _ :: _ => none

/-- The ordinary characters at the start of a word. -/
def plainStart : Word → List Char
  | .char c :: rest => c :: plainStart rest
  | _ => []

/-- Whether a word gives a variable a value. -/
def isAssignment (word : Word) : Bool :=
  let (name, rest) := splitName (plainStart word)
  !name.isEmpty && rest.head? == some '='

end JobShell.Machine.Script
