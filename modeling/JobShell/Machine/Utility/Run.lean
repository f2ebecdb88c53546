/-
Module: JobShell.Machine.Utility.Run
Purpose: What each program of the machine does when its process is given the processor.
Main exports: runUtility
-/
import JobShell.Machine.Utility.Expression
import JobShell.Machine.Utility.FileQuestions
import JobShell.Machine.Utility.Making
import JobShell.Machine.Utility.Moving
import JobShell.Machine.Utility.Printf
import JobShell.Machine.Utility.Search
import JobShell.Machine.Utility.Sorting
import JobShell.Machine.Utility.Surroundings

namespace JobShell.Machine.Utility

open Text (Bytes)

/-- The status of a condition that holds, and of one that does not. -/
def statusOf (answer : Bool) : Nat :=
  if answer then 0 else 1

/-- Ends a program that is asked about itself by its only argument with the answer and a status; any other
call goes on. -/
def answering (program : Program) (status : Nat) (name : Bytes) (arguments : List Bytes) (t : Task)
    (other : Finished) : Finished :=
  match (t.manuals program).loneAnswer? name arguments with
  | some text => concluded name 1 (t.print text, status)
  | none => other

/-- Prints its arguments as they are. -/
def runEcho (name : Bytes) (arguments : List Bytes) (t : Task) : Finished :=
  let printed := t.print (bytesOf (echoText (isStrict t) (arguments.map charsOf)))
  let other := concluded name 1 (printed, 0)
  if isStrict t then other else answering .echo 0 name arguments t other

/-- Carries out what printing brings about. -/
def applyPrintEvents (name : Bytes) (t : Task) (events : List PrintEvent) : Task :=
  events.foldr (fun event t =>
    match event with
    | .text chars => t.print (bytesOf chars)
    | .complaint chars => complain t name (bytesOf chars)) t

/-- Words without a double dash in front of them. -/
def dropDashes (words : List Bytes) : List Bytes :=
  match words with
  | [45, 45] :: rest => rest
  | _ => words

/-- Prints its arguments in a format. -/
def runPrintf (name : Bytes) (arguments : List Bytes) (t : Task) : Finished :=
  answering .printf 0 name arguments t <|
  match dropDashes arguments with
  | [] => (complainUsage t name (bytesOfText "missing operand"), 1)
  | format :: rest =>
      let run := printFormat .program (charsOf format) (rest.map charsOf)
      let printed := applyPrintEvents name t run.events
      concluded name 1 <|
        match run.cut with
        | some (some message) => (complain printed name (bytesOf message), 1)
        | some none => (printed, 0)
        | none => (printed, if run.failed then 1 else 0)

/-- The status of an expression that cannot be evaluated, and that of one whose value cannot be
written. -/
def expressionInvalid : Nat := 2

/-- The status of an expression whose value cannot be written. -/
def expressionFailure : Nat := 3

/-- The options of the program for expressions, which count only where there is nothing else. -/
def exprTable : OptionTable :=
  { letters := []
    names := [⟨"help", "help", .none⟩, ⟨"version", "version", .none⟩] }

/-- What the program for expressions says about itself, if its only argument asks for that. -/
def expressionAnswer? (manual : Manual) (name : Bytes) (arguments : List Bytes) : Option Bytes :=
  match arguments with
  | [word] =>
      match exprTable.scan [word] with
      | ([.option key _], _) => manual.answer? name key
      | _ => none
  | _ => none

/-- Evaluates an expression and prints its value. -/
def runExpr (name : Bytes) (arguments : List Bytes) (t : Task) : Finished :=
  match expressionAnswer? (t.manuals .expr) name arguments with
  | some text => concluded name expressionFailure (t.print text, 0)
  | none =>
      match dropDashes arguments with
      | [] => (complainUsage t name (bytesOfText "missing operand"), expressionInvalid)
      | words =>
          match evaluateExpression (words.map charsOf) with
          | .ok value =>
              concluded name expressionFailure
                (t.print (bytesOf (value.chars ++ ['\n'])), statusOf !value.isNull)
          | .error fault => (complain t name (bytesOf fault.message), expressionInvalid)

/-- The status of a condition that cannot be answered. -/
def conditionFailure : Nat := 2

/-- Answers a condition. -/
def runTest (name : Bytes) (bracket : Bool) (arguments : List Bytes) (t : Task) : Finished :=
  if bracket && arguments.getLast? != some (bytesOfText "]") then
    answering .bracket 0 name arguments t
      (complain t name (bytesOfText "missing ']'"), conditionFailure)
  else
    let words := if bracket then arguments.dropLast else arguments
    match evaluateCondition (fileFacts t) (words.map charsOf) with
    | .ok answer => (t, statusOf answer)
    | .error fault => (complain t name (bytesOf fault.message), conditionFailure)

/-- What comes of a program that is called with a name and arguments. -/
def outcomeOf (now : Nat) (program : Program) (name : Bytes) (rest : List Bytes) (t : Task) : Outcome :=
  match program with
  | .sh => .ends (t, 0)
  | .succeed => .ends (answering .succeed 0 name rest t (t, 0))
  | .fail => .ends (answering .fail 1 name rest t (t, 1))
  | .cat => .ends (runCat name rest t)
  | .echo => .ends (runEcho name rest t)
  | .sort => .ends (runSort name rest t)
  | .printf => .ends (runPrintf name rest t)
  | .expr => .ends (runExpr name rest t)
  | .test => .ends (runTest name false rest t)
  | .bracket => .ends (runTest name true rest t)
  | .env => runEnv name rest t
  | .pwd => .ends (runPwd name rest t)
  | .sleep => runSleep now name rest t
  | .rm => .ends (runRm name rest t)
  | .mv => .ends (runMv name rest t)
  | .touch => .ends (runTouch name rest t)
  | .mkdir => .ends (runMkdir name rest t)
  | .rmdir => .ends (runRmdir name rest t)
  | .grep => .ends (runGrep name rest t)

/-- Runs a program until it ends, sleeps or becomes another one. -/
def runUtility (now : Nat) (program : Program) (arguments : List Bytes) (t : Task) : Task :=
  match outcomeOf now program (arguments.headD []) arguments.tail t with
  | .ends (t', status) => t'.exit status
  | .goesOn t' => t'

end JobShell.Machine.Utility
