/-
Module: JobShell.Machine.Script.Commands.Control
Purpose: The commands that change what a script does next: leaving loops, functions and the script, taking
  commands from texts and files, and becoming another program.
Main exports: performBreak, performReturn, performExit, performEval, performDot, performExec
-/
import JobShell.Machine.Script.Commands.Performed
import JobShell.Machine.Script.Locating

namespace JobShell.Machine.Script

/-- Leaves loops, or goes on with the next turn of one. -/
def performBreak (again : Bool) (scene : Scene) (arguments : List (List Char)) : Performed :=
  let leaveLoops (count : Nat) : Performed :=
    let loops := min count scene.state.loops
    (if loops = 0 then scene
     else scene.modifyState fun s => { s with skip := .loops loops again }).ends 0
  match arguments with
  | [] => leaveLoops 1
  | word :: _ =>
      match argumentNumber? word with
      | none | some 0 => scene.failsNumber word
      | some count => leaveLoops count

/-- Leaves a function, or a file of commands. -/
def performReturn (scene : Scene) (arguments : List (List Char)) : Performed :=
  let leaveFunction (explicit : Bool) (status : Nat) : Performed :=
    (scene.modifyState fun s => { s with skip := .function explicit }).ends status
  match arguments with
  | [] => leaveFunction false scene.state.status
  | word :: _ =>
      match argumentNumber? word with
      | none => scene.failsNumber word
      | some status => leaveFunction true status

/-- Ends the script. -/
def performExit (scene : Scene) (arguments : List (List Char)) : Performed :=
  match arguments with
  | [] => ⟨scene, .breaks .exit⟩
  | word :: _ =>
      match argumentNumber? word with
      | none => scene.failsNumber word
      | some status =>
          ⟨scene.modifyState fun s => { s with trapStatus := some status }, .breaks .exit⟩

/-- Drops positional parameters. -/
def performShift (scene : Scene) (arguments : List (List Char)) : Performed :=
  let drop (count : Nat) : Performed :=
    let words := scene.state.positional.words
    if words.length < count then scene.fails "can't shift that many".toList
    else
      (scene.modifyState fun s => { s with positional := { words := words.drop count } }).ends 0
  match arguments with
  | [] => drop 1
  | word :: _ =>
      match argumentNumber? word with
      | none => scene.failsNumber word
      | some count => drop count

/-- Goes through the commands of a text. -/
def performEval (tested : Bool) (scene : Scene) (arguments : List (List Char)) : Performed :=
  if arguments.isEmpty then scene.ends 0
  else
    let text := [' '].intercalate arguments
    scene.goesOn [.source (textSource text) .nothing false { tested := tested } (some 0)]

/-- The path of a file of commands.  A name without a slash is looked for in the search path. -/
def findFile? (scene : Scene) (name : List Char) : Option (List Char) :=
  if name.contains '/' then some name
  else
    let w := scene.surroundings
    ((directoriesOf scene.state false).map fun directory => pathIn directory name).find? fun path =>
      match w.tree.resolve w.here (bytesOf path) with
      | .ok id => (w.tree.node? id).any (·.isFile)
      | .error _ => false

/-- A file that is read as commands. -/
def fileSource : Source := { unfinished := true }

/-- Goes through the commands of a file, which complaints name from then on. -/
def performDot (scene : Scene) (arguments : List (List Char)) : Performed :=
  withLetters scene [] arguments fun letters =>
    match letters.rest with
    | [] => scene.ends 0
    | name :: _ =>
        match findFile? scene name with
        | none => scene.fails (name ++ ": not found".toList)
        | some path =>
            match scene.task.openPath (bytesOf path) OpenMode.reading with
            | .error reason =>
                scene.fails ("cannot open ".toList ++ path ++ ": ".toList ++
                  reasonFor reason "No such file")
            | .ok (file, task) =>
                let there :=
                  { scene with
                    task := task
                    state := { scene.state with speaker := some path } }
                there.goesOn [.source fileSource (.file file) true {} (some 0)]

/-- What is said of a program that cannot be run. -/
def programComplaint (name : List Char) (reason : Errno) : List Char :=
  name ++ ": ".toList ++ reasonFor reason "not found"

/-- Becomes the program that fields name, or ends the script with a complaint. -/
def Scene.become (scene : Scene) (usualPath : Bool) (fields : List (List Char)) (place : Nat) :
    Performed :=
  match becomeProgram scene.task.disk.tree scene.task.process scene.state usualPath fields place with
  | .ok p => ⟨{ scene with task := { scene.task with process := p } }, .gone⟩
  | .error reason =>
      let told := scene.complain (programComplaint (fields.headD []) reason)
      ⟨told.withStatus (failureStatus reason), .breaks .done⟩

/-- Becomes another program, if one is named. -/
def performExec (scene : Scene) (arguments : List (List Char)) : Performed :=
  withLetters scene [] arguments fun letters =>
    if letters.rest.isEmpty then scene.ends 0 else scene.become false letters.rest 0

end JobShell.Machine.Script
