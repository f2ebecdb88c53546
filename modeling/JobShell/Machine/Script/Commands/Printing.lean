/-
Module: JobShell.Machine.Script.Commands.Printing
Purpose: The commands of scripts that print, and the one that answers conditions.
Main exports: performEcho, performPrintf, performTest
-/
import JobShell.Machine.Script.Commands.Performed
import JobShell.Machine.Script.Condition
import JobShell.Machine.Utility.FileQuestions
import JobShell.Machine.Utility.Printf

namespace JobShell.Machine.Script

/-- Prints its arguments. -/
def performEcho (scene : Scene) (arguments : List (List Char)) : Performed :=
  (scene.print (Utility.scriptEchoText arguments)).ends 0

/-- Carries out what printing brings about. -/
def applyPrinting (scene : Scene) (events : List Utility.PrintEvent) : Scene :=
  events.foldr (fun event scene =>
    match event with
    | .text chars => scene.print chars
    | .complaint chars => scene.complain chars) scene

/-- Prints its arguments in a format. -/
def performPrintf (scene : Scene) (arguments : List (List Char)) : Performed :=
  withLetters scene [] arguments fun letters =>
    match letters.rest with
    | [] => scene.fails "usage: printf format [arg ...]".toList
    | format :: rest =>
        let run := Utility.printFormat .script format rest
        let printed := applyPrinting scene run.events
        match run.cut with
        | some (some text) => printed.fails text
        | _ => printed.ends (if run.failed then 1 else 0)

/-- Answers a condition; with a bracket in front there must be one behind. -/
def performTest (bracket : Bool) (scene : Scene) (arguments : List (List Char)) : Performed :=
  if bracket && arguments.getLast? != some [']'] then scene.fails "missing ]".toList
  else
    let words := if bracket then arguments.dropLast else arguments
    match evaluateScriptCondition (Utility.fileFacts scene.task) words with
    | .ok answer => scene.ends (if answer then 0 else 1)
    | .error fault => scene.fails fault.message

end JobShell.Machine.Script
