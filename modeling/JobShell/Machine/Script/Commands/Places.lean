/-
Module: JobShell.Machine.Script.Commands.Places
Purpose: The commands for the working directory, which a script knows by the name it was reached by.
Main exports: performCd, performPwd, pathFrom
-/
import JobShell.Machine.Script.Commands.Performed
import JobShell.Machine.Script.Locating

namespace JobShell.Machine.Script

/-- The names in a path. -/
def pathNames (path : List Char) : List (List Char) :=
  (FileTree.steps (bytesOf path)).map charsOf

/-- Takes a name behind others, last one first: a dot leads nowhere, and two dots lead back. -/
def takeName (names : List (List Char)) (name : List Char) : List (List Char) :=
  if name.isEmpty || name = ['.'] then names
  else if name = ['.', '.'] then names.tail
  else name :: names

/-- The slashes at the front of a path: one, or two where there are exactly two. -/
def leadingSlashes (path : List Char) : List Char :=
  if (path.takeWhile (· == '/')).length = 2 then ['/', '/'] else ['/']

/-- The path that a word leads to from a directory, by the names alone. -/
def pathFrom (directory word : List Char) : List Char :=
  let (front, start) :=
    if word.head? = some '/' then (leadingSlashes word, [])
    else (leadingSlashes directory, ((pathNames directory).foldl takeName []))
  front ++ ['/'].intercalate ((pathNames word).foldl takeName start).reverse

/-- The path of the working directory, as the system knows it; complains if it has none. -/
def systemName (scene : Scene) : List Char × Scene :=
  match scene.task.directoryName with
  | some path => (charsOf path, scene)
  | none => ([], scene.complain "getcwd() failed: No such file or directory".toList)

/-- Notes the working directory by a name. -/
def noteDirectory (scene : Scene) (path : List Char) : Except (List Char) Scene := do
  let s ← scene.state.assign "OLDPWD".toList (some scene.state.directory) { exported := true }
  let s' ← s.assign "PWD".toList (some path) { exported := true }
  return { scene with
    state :=
      { s' with
        directory := path
        commands := s'.commands.doubtPlaces } }

/-- Why a directory cannot be worked in, if it cannot. -/
def enter? (t : Task) (path : List Char) : Option Task :=
  match t.resolve (bytesOf path) with
  | .error _ => none
  | .ok id =>
      if t.disk.tree.isDirectory id && t.disk.tree.allows id .execute then
        some { t with process := { t.process with directory := id } }
      else none

/-- Changes the working directory; tells what went wrong. -/
def changeTo (scene : Scene) (physical : Bool) (path shown : List Char) : Except (List Char) Scene :=
  let byName := !physical && (path.head? = some '/' || !scene.state.directory.isEmpty)
  let target := if byName then pathFrom scene.state.directory path else path
  match enter? scene.task target with
  | none => .error ("can't cd to ".toList ++ shown)
  | some task =>
      let there := { scene with task := task }
      if byName then noteDirectory there target
      else
        match systemName there with
        | (name, told) => noteDirectory told name

/-- Whether a path does not depend on where directories are looked for. -/
def isFixedPath (path : List Char) : Bool :=
  path.head? == some '/' || path == ['.'] || path == ['.', '.'] ||
    ['.', '/'].isPrefixOf path || ['.', '.', '/'].isPrefixOf path

/-- Where a path leads among the directories in which others are looked for; tells also whether the place
has to be shown. -/
def searchPlace (scene : Scene) (path : List Char) : List Char × Bool :=
  match scene.state.value? "CDPATH" with
  | none => (path, false)
  | some directories =>
      let found := ((searchDirectories (bytesOf directories)).map charsOf).find? fun directory =>
        scene.task.isDirectoryAt (bytesOf (pathIn directory path))
      match found with
      | none => (path, false)
      | some directory => (pathIn directory path, !directory.isEmpty)

/-- Whether the letters for the working directory ask for the path without links. -/
def isPhysical (letters : Letters) : Bool :=
  (letters.found.getLast?.map (·.1)) == some 'P'

/-- The letters of the commands for the working directory. -/
def placeLetters : List (Char × Bool) :=
  [('L', false), ('P', false)]

/-- Changes the working directory. -/
def performCd (scene : Scene) (arguments : List (List Char)) : Performed :=
  withLetters scene placeLetters arguments fun letters =>
    let back := letters.rest.head? == some ['-']
    let wanted := match letters.rest with
      | [] => (scene.state.value? "HOME").getD []
      | word :: _ => if back then (scene.state.value? "OLDPWD").getD [] else word
    let shown := if wanted.isEmpty then ['.'] else wanted
    let (path, found) := if isFixedPath wanted then (wanted, false) else searchPlace scene shown
    match changeTo scene (isPhysical letters) path shown with
    | .error text => scene.fails text
    | .ok there => (if back || found then there.printLine there.state.directory else there).ends 0

/-- Shows the working directory. -/
def performPwd (scene : Scene) (arguments : List (List Char)) : Performed :=
  withLetters scene placeLetters arguments fun letters =>
    if isPhysical letters then
      match systemName scene with
      | (path, told) => (told.printLine path).ends 0
    else (scene.printLine scene.state.directory).ends 0

end JobShell.Machine.Script
