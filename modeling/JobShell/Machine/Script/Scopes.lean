/-
Module: JobShell.Machine.Script.Scopes
Purpose: Variables that belong to a function or to a single command, and get their old values back behind it.
Main exports: ScriptState.openScope, ScriptState.makeLocal, ScriptState.closeScope
-/
import JobShell.Machine.Script.State

namespace JobShell.Machine.Script.ScriptState

/-- Begins a scope. -/
def openScope (s : ScriptState) : ScriptState :=
  { s with locals := [] :: s.locals }

/-- Notes what has to be put back at the end of the innermost scope. -/
def noteLocal (s : ScriptState) (old : SavedLocal) : ScriptState :=
  match s.locals with
  | [] => s
  | scope :: outer => { s with locals := (old :: scope) :: outer }

/-- Sets a variable whose name is taken as it is. -/
def assignAnyway (s : ScriptState) (name value : List Char) (marks : Marks) :
    Except (List Char) ScriptState :=
  match s.bindings.set name (some value) (s.usualMarks marks) with
  | .error fault => .error fault.message
  | .ok bindings =>
      match s.noticeValue name value with
      | .error text => .error text
      | .ok noticed => .ok { noticed with bindings := bindings }

/-- The name and the value in a word that may hold both. -/
def splitAssignment (word : List Char) : List Char × Option (List Char) :=
  let name := word.takeWhile (· != '=')
  match word.drop name.length with
  | [] => (name, none)
  | _ :: value => (name, some value)

/-- Makes a variable, or the switches, local to the innermost scope.  A variable that had a value keeps it,
unless the word gives another one. -/
def makeLocal (s : ScriptState) (word : List Char) (marks : Marks) : Except (List Char) ScriptState :=
  if word = ['-'] then .ok (s.noteLocal (.switches s.switches))
  else
    let (name, value) := splitAssignment word
    let noted (old : SavedLocal) (set : Except (List Char) ScriptState) :
        Except (List Char) ScriptState := set.map fun s' => s'.noteLocal old
    let bound :=
      { s with bindings := s.bindings.modify name fun v => { v with fixed := true } }
    match s.bindings.find? name, value with
    | none, some value =>
        noted (.missing name) (s.assignAnyway name value { marks with fixed := true })
    | none, none => noted (.missing name) (s.assign name none { marks with fixed := true })
    | some old, none => noted (.variable_ old) (.ok bound)
    | some old, some value => noted (.variable_ old) (bound.assignAnyway name value marks)

/-- What follows from a value that a variable gets back. -/
def noticeReturn (s : ScriptState) (name : List Char) (value : Option (List Char)) : ScriptState :=
  match s.noticeValue name (value.getD []) with
  | .ok noticed => noticed
  | .error _ => s

/-- Puts something back as it was. -/
def putBackLocal (s : ScriptState) : SavedLocal → ScriptState
  | .switches on => { s with switches := on }
  | .missing name => { s with bindings := s.bindings.filter fun v => v.name != name }
  | .variable_ old =>
      let noticed := s.noticeReturn old.name old.value
      { noticed with bindings := noticed.bindings.modify old.name fun _ => old }

/-- Ends the innermost scope. -/
def closeScope (s : ScriptState) : ScriptState :=
  match s.locals with
  | [] => s
  | scope :: outer => scope.foldl putBackLocal { s with locals := outer }

end JobShell.Machine.Script.ScriptState
