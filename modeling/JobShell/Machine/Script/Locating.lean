/-
Module: JobShell.Machine.Script.Locating
Purpose: What the name of a command means, and how a process becomes the program of a name.
Main exports: Found, locate, becomeProgram, failureStatus
-/
import JobShell.Machine.Characters
import JobShell.Machine.Exec

namespace JobShell.Machine.Script

/-- What the name of a command means: a function, a command of the script itself, a program in one of the
directories of the search path, or at a path, or nothing. -/
inductive Found where
  | function (body : Option Statement)
  | own (what : OwnCommand)
  | program (place : Nat)
  | missing (reason : Errno)
deriving Inhabited

/-- Where programs usually are. -/
def usualSearchPath : List Char :=
  "/usr/local/sbin:/usr/local/bin:/usr/sbin:/usr/bin:/sbin:/bin".toList

/-- The directories in which programs are looked for. -/
def directoriesOf (s : ScriptState) (usualPath : Bool) : List (List Char) :=
  let path := if usualPath then usualSearchPath else (s.value? "PATH").getD []
  (searchDirectories (bytesOf path)).map charsOf

/-- The path of a name in a directory. -/
def pathIn (directory name : List Char) : List Char :=
  if directory.isEmpty then name else directory ++ '/' :: name

/-- Whether a reason only tells that there is nothing at a path. -/
def isAbsence (reason : Errno) : Bool :=
  reason = Errno.noEntry || reason = Errno.notDirectory

/-- Whether a program can be run at a path, or why not. -/
def programAt (w : Surroundings) (path : List Char) : Except Errno Unit :=
  match w.tree.resolve w.here (bytesOf path) with
  | .error reason => .error reason
  | .ok id =>
      if (w.tree.node? id).any fun node => node.isFile && node.allows .execute then .ok ()
      else .error Errno.denied

/-- Looks for a program in directories, the first of which has the number `place`.  Where it was found before
counts: absolute directories before that one are passed over, and there it is taken to be still. -/
def findProgram (w : Surroundings) (name : List Char) (before : Option Nat) :
    Nat → Errno → List (List Char) → Except Errno Nat
  | _, last, [] => .error last
  | place, last, directory :: rest =>
      let path := pathIn directory name
      if path.head? == some '/' && before.any (place ≤ ·) then
        if before = some place then .ok place else findProgram w name before (place + 1) last rest
      else
        match programAt w path with
        | .ok () => .ok place
        | .error reason =>
            findProgram w name before (place + 1) (if isAbsence reason then last else reason) rest

/-- What is remembered about a name, as far as it counts: not a function if none is meant, and not a place
if programs are looked for elsewhere. -/
def remembered (s : ScriptState) (name : List Char) (plain usualPath : Bool) : Option CommandEntry :=
  (s.commands.find? name).filter fun entry =>
    match entry with
    | .function _ => !plain
    | .located _ _ => !usualPath

/-- What the name of a command means.  Where a program was found is remembered. -/
def locate (w : Surroundings) (s : ScriptState) (name : List Char) (plain usualPath : Bool) :
    Found × ScriptState :=
  if name.contains '/' then (.program 0, s)
  else
    let search (before : Option Nat) : Found × ScriptState :=
      match OwnCommand.ofName? name with
      | some what => (.own what, s)
      | none =>
          let keeps := usualPath || (s.commands.function? name).isSome
          match findProgram w name before 0 Errno.noEntry (directoriesOf s usualPath) with
          | .ok place =>
              let commands := s.commands.insert name (.located place false)
              (.program place, if keeps then s else { s with commands := commands })
          | .error reason =>
              (.missing reason, if keeps then s else { s with commands := s.commands.erase name })
    match remembered s name plain usualPath with
    | some (.function body) => (.function body, s)
    | some (.located place stale) => if stale then search (some place) else (.program place, s)
    | none => search none

/-!
## Becoming a program
-/

/-- The variables that a program started by a script gets. -/
def environmentOf (s : ScriptState) : Environment :=
  s.bindings.exported.map fun entry => (String.ofList entry.1, bytesOf entry.2)

/-- Tries the directories in order; the last reason counts that tells more than that nothing is there. -/
def becomeOneOf (tree : FileTree) (p : Process) (fields : List (List Char)) (last : Errno) :
    List (List Char) → Except Errno Process
  | [] => .error last
  | directory :: rest =>
      match execOrInterpret tree p (bytesOf (pathIn directory (fields.headD [])))
          (fields.map bytesOf) with
      | .ok p' => .ok p'
      | .error reason =>
          becomeOneOf tree p fields (if isAbsence reason then last else reason) rest

/-- Makes a process the program that the first field names, which is looked for from a place on. -/
def becomeProgram (tree : FileTree) (p : Process) (s : ScriptState) (usualPath : Bool)
    (fields : List (List Char)) (place : Nat) : Except Errno Process :=
  let ready := { p with environment := environmentOf s }
  let name := fields.headD []
  if name.contains '/' then execOrInterpret tree ready (bytesOf name) (fields.map bytesOf)
  else becomeOneOf tree ready fields Errno.noEntry ((directoriesOf s usualPath).drop place)

/-- The status of a program that cannot be run. -/
def failureStatus (reason : Errno) : Nat :=
  if isAbsence reason || reason = Errno.tooManyLinks || reason = Errno.nameTooLong then 127 else 126

end JobShell.Machine.Script
