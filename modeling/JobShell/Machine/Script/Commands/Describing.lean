/-
Module: JobShell.Machine.Script.Commands.Describing
Purpose: The commands that tell what names of commands mean.
Main exports: performType, performCommand, performHash
-/
import JobShell.Machine.Script.Commands.Naming
import JobShell.Machine.Script.Locating

namespace JobShell.Machine.Script

/-- The path of a program that has been found in one of the directories of a search path. -/
def pathOfPlace (s : ScriptState) (usualPath : Bool) (name : List Char) (place : Nat) : List Char :=
  if name.contains '/' then name
  else pathIn ((directoriesOf s usualPath).getD place []) name

/-- What a name means, any file counting where a path is written. -/
def meaning (w : Surroundings) (s : ScriptState) (usualPath : Bool) (name : List Char) :
    Found × ScriptState :=
  if name.contains '/' then
    match w.tree.resolve w.here (bytesOf name) with
    | .ok _ => (.program 0, s)
    | .error reason => (.missing reason, s)
  else
    match if usualPath then none else s.commands.find? name with
    | some (.located place _) => (.program place, s)
    | _ => locate w s name false usualPath

/-- Describes what a name means: in a sentence, or by what stands for it. -/
def describe (verbose usualPath : Bool) (name : List Char) (scene : Scene) : Scene × Nat :=
  let s := scene.state
  let line (sentence brief : List Char) (scene : Scene) : Scene × Nat :=
    (scene.printLine (if verbose then name ++ sentence else brief), 0)
  if (Keyword.ofText? name).isSome then line " is a shell keyword".toList name scene
  else
    match s.aliases.lookup name with
    | some text =>
        line (" is an alias for ".toList ++ text) ("alias ".toList ++ aliasLine (name, text)) scene
    | none =>
        let isTracked := !usualPath && (s.commands.find? name).isSome
        match meaning scene.surroundings s usualPath name with
        | (.function _, s') => line " is a shell function".toList name { scene with state := s' }
        | (.own _, s') =>
            let kind := if isSpecialCommand name then " is a special shell builtin" else " is a shell builtin"
            line kind.toList name { scene with state := s' }
        | (.program place, s') =>
            let path := pathOfPlace s' usualPath name place
            let kind := if isTracked then " is a tracked alias for " else " is "
            line (kind.toList ++ path) path { scene with state := s' }
        | (.missing _, s') =>
            let there := { scene with state := s' }
            (if verbose then there.printLine (name ++ ": not found".toList) else there, 127)

/-- Describes what names mean. -/
def performType (scene : Scene) (arguments : List (List Char)) : Performed :=
  let (done, status) := arguments.foldl (fun (soFar : Scene × Nat) name =>
    match describe true false name soFar.1 with
    | (scene, status) => (scene, soFar.2 ||| status)) (scene, 0)
  done.ends status

/-- Describes what a name means; commands that are to be run have been dealt with before. -/
def performCommand (scene : Scene) (arguments : List (List Char)) : Performed :=
  withLetters scene [('p', false), ('v', false), ('V', false)] arguments fun letters =>
    match letters.rest with
    | [] => scene.ends 0
    | name :: _ =>
        if letters.has 'v' || letters.has 'V' then
          match describe (letters.has 'V') (letters.has 'p') name scene with
          | (done, status) => done.ends status
        else scene.ends 0

/-- The number of buckets for the names of commands. -/
def commandBucketCount : Nat := 31

/-- Shows where programs have been found. -/
def showPlaces (scene : Scene) : Scene :=
  (inBuckets commandBucketCount (·.1) scene.state.commands).foldl (fun scene entry =>
    match entry.2 with
    | .located place stale =>
        scene.printLine (pathOfPlace scene.state false entry.1 place ++ (if stale then ['*'] else []))
    | .function _ => scene) scene

/-- Finds out where the program of a name is. -/
def rememberPlace (soFar : Scene × Nat) (name : List Char) : Scene × Nat :=
  let (scene, status) := soFar
  let fresh := scene.modifyState fun s =>
    if (s.commands.function? name).isSome then s else { s with commands := s.commands.erase name }
  match locate fresh.surroundings fresh.state name false false with
  | (.missing reason, s) =>
      (({ fresh with state := s }).complain (name ++ ": ".toList ++ reasonFor reason "not found"), 1)
  | (_, s) => ({ fresh with state := s }, status)

/-- Shows, finds out or forgets where programs are. -/
def performHash (scene : Scene) (arguments : List (List Char)) : Performed :=
  withLetters scene [('r', false)] arguments fun letters =>
    if letters.has 'r' then
      (scene.modifyState fun s => { s with commands := s.commands.forgetPlaces }).ends 0
    else if letters.rest.isEmpty then (showPlaces scene).ends 0
    else
      let (done, status) := letters.rest.foldl rememberPlace (scene, 0)
      done.ends status

end JobShell.Machine.Script
