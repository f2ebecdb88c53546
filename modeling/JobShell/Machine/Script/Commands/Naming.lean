/-
Module: JobShell.Machine.Script.Commands.Naming
Purpose: The commands that mark, forget and keep to a function the variables of a script, and those for its
  aliases.
Main exports: performMark, performUnset, performLocal, performAlias, performUnalias
-/
import JobShell.Machine.Script.Commands.Settings

namespace JobShell.Machine.Script

/-- Marks the variables that words name, and gives them the values that stand there. -/
def markVariables (marks : Marks) : List (List Char) → Scene → Performed
  | [], scene => scene.ends 0
  | word :: rest, scene =>
      let (name, value) := ScriptState.splitAssignment word
      match value, scene.state.bindings.find? word with
      | none, some _ =>
          markVariables marks rest <| scene.modifyState fun s =>
            { s with
              bindings :=
                s.bindings.modify word fun v =>
                  { v with
                    exported := v.exported || marks.exported
                    readOnly := v.readOnly || marks.readOnly } }
      | _, _ =>
          match scene.state.assign name value marks with
          | .error text => scene.fails text
          | .ok s => markVariables marks rest { scene with state := s }

/-- Marks variables, or shows those that have the mark. -/
def performMark (name : String) (marks : Marks) (scene : Scene) (arguments : List (List Char)) :
    Performed :=
  withLetters scene [('p', false)] arguments fun letters =>
    if letters.has 'p' || letters.rest.isEmpty then
      let kind (v : Variable) : Bool := if marks.exported then v.exported else v.readOnly
      (showVariables scene (name.toList ++ [' ']) kind).ends 0
    else markVariables marks letters.rest scene

/-- Forgets variables. -/
def unsetVariables : List (List Char) → Scene → Performed
  | [], scene => scene.ends 0
  | word :: rest, scene =>
      match scene.setVariable word none with
      | .error text => scene.fails text
      | .ok unset => unsetVariables rest unset

/-- Forgets variables or functions; the last letter counts. -/
def performUnset (scene : Scene) (arguments : List (List Char)) : Performed :=
  withLetters scene [('v', false), ('f', false)] arguments fun letters =>
    if (letters.found.getLast?.map (·.1)) == some 'f' then
      (letters.rest.foldl (fun scene name =>
        if (scene.state.commands.function? name).isSome then
          scene.modifyState fun s => { s with commands := s.commands.erase name }
        else scene) scene).ends 0
    else unsetVariables letters.rest scene

/-- Makes variables local to the function at hand. -/
def performLocal (scene : Scene) (arguments : List (List Char)) : Performed :=
  if scene.state.locals.isEmpty then scene.fails "not in a function".toList
  else
    let rec go : List (List Char) → Scene → Performed
      | [], scene => scene.ends 0
      | word :: rest, scene =>
          match scene.state.makeLocal word {} with
          | .error text => scene.fails text
          | .ok s => go rest { scene with state := s }
    go arguments scene

/-!
## Aliases
-/

/-- The line that shows an alias. -/
def aliasLine (entry : List Char × List Char) : List Char :=
  entry.1 ++ '=' :: quotedText entry.2

/-- Sets an alias, in the place of an old one. -/
def setAlias (s : ScriptState) (name text : List Char) : ScriptState :=
  if (s.aliases.lookup name).isSome then
    { s with aliases := s.aliases.map fun old => if old.1 = name then (name, text) else old }
  else { s with aliases := s.aliases ++ [(name, text)] }

/-- Sets or shows the aliases that words give or name. -/
def takeAliases (status : Nat) : List (List Char) → Scene → Performed
  | [], scene => scene.ends status
  | word :: rest, scene =>
      let name := word.take 1 ++ (word.drop 1).takeWhile (· != '=')
      match word.drop name.length with
      | _ :: text => takeAliases status rest (scene.modifyState fun s => setAlias s name text)
      | [] =>
          match scene.state.aliases.lookup word with
          | some text => takeAliases status rest (scene.printLine (aliasLine (word, text)))
          | none => takeAliases 1 rest (scene.tell ("alias: ".toList ++ word ++ " not found\n".toList))

/-- Sets aliases, or shows them. -/
def performAlias (scene : Scene) (arguments : List (List Char)) : Performed :=
  if arguments.isEmpty then
    ((inBuckets bucketCount (·.1) scene.state.aliases).foldl
      (fun scene entry => scene.printLine (aliasLine entry)) scene).ends 0
  else takeAliases 0 arguments scene

/-- Forgets aliases. -/
def performUnalias (scene : Scene) (arguments : List (List Char)) : Performed :=
  withLetters scene [('a', false)] arguments fun letters =>
    if letters.has 'a' then (scene.modifyState fun s => { s with aliases := [] }).ends 0
    else
      let (done, status) := letters.rest.foldl (fun (soFar : Scene × Nat) name =>
        if (soFar.1.state.aliases.lookup name).isSome then
          (soFar.1.modifyState fun s =>
            { s with aliases := s.aliases.filter fun entry => entry.1 != name }, soFar.2)
        else (soFar.1.tell ("unalias: ".toList ++ name ++ " not found\n".toList), 1)) (scene, 0)
      done.ends status

end JobShell.Machine.Script
