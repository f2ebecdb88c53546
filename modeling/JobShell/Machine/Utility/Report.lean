/-
Module: JobShell.Machine.Utility.Report
Purpose: What programs say when something goes wrong, and how they end.
Main exports: Finished, complain, complainUsage, concluded, scanWords, readOptions, withSettings, chooseValue,
  askYes
-/
import JobShell.Machine.Task
import JobShell.Machine.Utility.OptionScan

namespace JobShell.Machine.Utility

open Text (Bytes)

/-- A task that has come to a status. -/
abbrev Finished := Task × Nat

/-- Writes a complaint: the name by which the program was called, then the text.  What has been printed
before it is written first. -/
def complain (t : Task) (name text : Bytes) : Task :=
  t.flush.2.err (name ++ bytesOfText ": " ++ text ++ bytesOfText "\n")

/-- Points out how to get help. -/
def pointToHelp (t : Task) (name : Bytes) : Task :=
  t.err (bytesOfText "Try '" ++ name ++ bytesOfText " --help' for more information.\n")

/-- Writes a complaint about a call with the wrong words. -/
def complainUsage (t : Task) (name text : Bytes) : Task :=
  pointToHelp (complain t name text) name

/-- The words for a reason. -/
def reasonText (reason : Errno) : Bytes :=
  bytesOfText reason.text

/-- A text in front of a reason. -/
def because (text : Bytes) (reason : Errno) : Bytes :=
  text ++ bytesOfText ": " ++ reasonText reason

/-- Ends a program that prints: what it has held back is written, and if that fails, now or before, it
says so and ends with the status for failures. -/
def concluded (name : Bytes) (failure : Nat) (finished : Finished) : Finished :=
  let (t, status) := finished
  match t.flush with
  | (.error reason, t') => (complain t' name (because (bytesOfText "write error") reason), failure)
  | (.ok (), t') =>
      if t'.spoiled then (complain t' name (bytesOfText "write error"), failure) else (t', status)

/-- A step in reading options: the settings so far, or a program that has come to its end. -/
abbrev Reading (α : Type) := Except Finished α

/-- Whether programs are asked to be strict about the order of their words and other matters. -/
def isStrict (t : Task) : Bool :=
  t.process.environment.has "POSIXLY_CORRECT"

/-- The options and operands among the words of a program; where programs are strict, the first operand ends
the options. -/
def scanWords (table : OptionTable) (t : Task) (words : List Bytes) : Scanned :=
  { table with endsAtOperand := table.endsAtOperand || isStrict t }.scan words

/-- Reads the options of a program one after the other.  A word that cannot be read puts an end to it. -/
def readOptionsOr {α : Type} (refuse : List Char → Finished) (start : α)
    (step : α → String → Option (List Char) → Reading α) (seen : List Sighting) : Reading α :=
  seen.foldl (fun soFar sighting =>
    match soFar, sighting with
    | .error finished, _ => .error finished
    | .ok _, .mistake text => .error (refuse text)
    | .ok settings, .option key argument => step settings key argument) (.ok start)

/-- Reads the options of a program that ends with a status of its own when it is called with a word that
cannot be read.  Asked about itself it answers, and that is the end of it. -/
def readOptions {α : Type} (program : Program) (name : Bytes) (failure : Nat) (t : Task) (start : α)
    (step : α → String → Option (List Char) → Reading α) (seen : List Sighting) : Reading α :=
  readOptionsOr (fun text => (complainUsage t name (bytesOf text), failure)) start
    (fun settings key argument =>
      match (t.manuals program).answer? name key with
      | some text => .error (t.print text, 0)
      | none => step settings key argument) seen

/-- Runs the rest of a program with its settings, unless reading them has put an end to it. -/
def withSettings {α : Type} (settings : Reading α) (rest : α → Finished) : Finished :=
  match settings with
  | .error finished => finished
  | .ok found => rest found

/-!
## Words with few values
-/

/-- What is said of a word that is none of some values, or stands for several of them. -/
def complainValue (t : Task) (name : Bytes) (ambiguous : Bool) (word : List Char) (option : String)
    (groups : List (List String)) : Task :=
  let shown (values : List String) : String :=
    "  - " ++ ", ".intercalate (values.map fun v => "'" ++ v ++ "'") ++ "\n"
  let front := if ambiguous then "ambiguous argument " else "invalid argument "
  let told :=
    complain t name (bytesOfText front ++ inQuotes (bytesOf word) ++
      bytesOfText (" for '" ++ option ++ "'"))
  told.err (bytesOfText ("Valid arguments are:\n" ++ String.join (groups.map shown)))

/-- The value that a word stands for, which may be cut short as long as it stays clear: the first word of
its group.  `refuse` ends a program that has been given another word, after what is said of that. -/
def chooseValueOr (refuse : Task → Finished) (t : Task) (name : Bytes) (word : List Char)
    (option : String) (groups : List (List String)) : Reading String :=
  let fits (value : String) : Bool := word.isPrefixOf value.toList
  match groups.find? fun group => group.any fun value => value.toList == word with
  | some group => .ok (group.headD "")
  | none =>
      match groups.filter fun group => group.any fits with
      | [] => .error (refuse (complainValue t name false word option groups))
      | [group] => .ok (group.headD "")
      | _ => .error (refuse (complainValue t name true word option groups))

/-- The value that a word stands for.  Another word ends the program with the status 1, whatever else the
status of its failures is. -/
def chooseValue (t : Task) (name : Bytes) (word : List Char) (option : String)
    (groups : List (List String)) : Reading String :=
  chooseValueOr (fun told => (pointToHelp told name, 1)) t name word option groups

/-- Asks a question on the standard error and takes the answer from the standard input: yes if it starts
with that letter. -/
def askYes (t : Task) (name text : Bytes) : Bool × Task :=
  let asked := t.flush.2.err (name ++ bytesOfText ": " ++ text ++ bytesOfText "? ")
  let (line, t') := asked.readLine 0
  (line.head? == some 121 || line.head? == some 89, t')

end JobShell.Machine.Utility
