/-
Module: JobShell.Machine.Script.State
Purpose: What a script knows while it runs, and work on it that may need the output of commands on the way.
Main exports: ScriptState, Surroundings, Progress, Expanding, Expanding.fail, Expanding.outputOf
-/
import JobShell.Machine.Disk
import JobShell.Machine.Script.Commands
import JobShell.Machine.Script.Jobs
import JobShell.Machine.Script.Limits
import JobShell.Machine.Script.Switches
import JobShell.Machine.Script.Variables
import JobShell.Machine.Utility.Numeral

namespace JobShell.Machine.Script

/-- Whether commands are being skipped: out of loops, going on with the last of them or leaving that one
too, or out of a function or a file; `explicit` tells that a status came with it. -/
inductive Skip where
  | nothing
  | loops (count : Nat) (again : Bool)
  | function (explicit : Bool)
deriving Repr, Inhabited, DecidableEq

/-- What has to be put back at the end of a function: the switches, a variable that there was not, or one
as it was. -/
inductive SavedLocal where
  | switches (on : List Switch)
  | missing (name : List Char)
  | variable_ (old : Variable)
deriving Repr, Inhabited, DecidableEq

/-- The positional parameters, and how far the options among them have been gone through: the next word,
and the letter in it, if it is not the first one. -/
structure Positional where
  words : List (List Char) := []
  next : Nat := 1
  letter : Option Nat := none
deriving Repr, Inhabited, DecidableEq

/-- What a script knows. -/
structure ScriptState where
  name : List Char
  /-- The command, or the file, that complaints name. -/
  speaker : Option (List Char) := none
  line : Nat := 0
  positional : Positional := {}
  bindings : Variables := []
  switches : List Switch := []
  commands : CommandTable := []
  aliases : List (List Char × List Char) := []
  /-- The texts behind lines of the commands read so far. -/
  documents : Array Word := #[]
  status : Nat := 0
  /-- The status of the last command in a word of the command at hand. -/
  substituted : Nat := 0
  /-- The status with which a trap began. -/
  trapStatus : Option Nat := none
  /-- How many loops the commands at hand stand in. -/
  loops : Nat := 0
  skip : Skip := .nothing
  /-- What to do when a signal arrives, by number; zero stands for the end of the script. -/
  traps : List (Nat × List Char) := []
  /-- The signals that were ignored from the start, which no trap can change. -/
  immune : List Nat := []
  /-- What the functions at hand have to put back, the innermost first. -/
  locals : List (List SavedLocal) := []
  /-- The descriptors that the redirections at hand have to put back, those of the innermost first. -/
  saved : List (List (Nat × Option FileId)) := []
  number : Nat
  lastDetached : Option Nat := none
  jobs : Jobs := []
  limits : List Limit := usualLimits
  /-- The working directory by the name it was reached by. -/
  directory : List Char := []
  /-- Whether the text in front of traces is being worked out. -/
  tracing : Bool := false
deriving Inhabited

namespace ScriptState

/-- Whether a switch is on. -/
def has (s : ScriptState) (switch : Switch) : Bool :=
  s.switches.contains switch

/-- The value of a variable. -/
def value? (s : ScriptState) (name : String) : Option (List Char) :=
  s.bindings.value? name.toList

/-- The beginning of a complaint. -/
def complaintStart (s : ScriptState) : List Char :=
  let front := s.name ++ s!": {s.line}: ".toList
  match s.speaker with
  | none => front
  | some speaker => front ++ speaker ++ [':', ' ']

end ScriptState

/-!
## Numbers
-/

/-- The largest number that a command takes. -/
def largestArgument : Nat := 2147483647

/-- What is said of a word that is no number. -/
def badNumber (word : List Char) : List Char :=
  "Illegal number: ".toList ++ word

/-- The number that a word writes, blanks around it not counting, in base ten or in the base its front asks
for; then no digits at all are zero. -/
def wholeNumber? (anyBase : Bool) (word : List Char) : Option Int :=
  match Utility.readInteger anyBase word with
  | some n =>
      let (value, unfit) := Utility.clampWord n.value
      if unfit || !n.rest.all Utility.isBlankChar then none else some value
  | none => if anyBase && word.all Utility.isBlankChar then some 0 else none

/-- The number that a command takes from a word: it is neither below zero nor too large. -/
def argumentNumber? (word : List Char) : Option Nat :=
  (wholeNumber? false word).bind fun n =>
    if 0 ≤ n && n ≤ largestArgument then some n.toNat else none

/-!
## Setting variables
-/

namespace ScriptState

/-- What follows from a new value of a variable: the search path decides where programs are, and there is a
variable that counts the options. -/
def noticeValue (s : ScriptState) (name value : List Char) : Except (List Char) ScriptState :=
  if name = "PATH".toList then .ok { s with commands := s.commands.forgetPlaces }
  else if name = "OPTIND".toList then
    match argumentNumber? value with
    | none => .error (badNumber value)
    | some n =>
        .ok { s with positional := { s.positional with next := max n 1, letter := none } }
  else .ok s

/-- The marks that every variable gets which is set now. -/
def usualMarks (s : ScriptState) (marks : Marks) : Marks :=
  { marks with exported := marks.exported || s.has .allexport }

/-- Sets or unsets a variable. -/
def assign (s : ScriptState) (name : List Char) (value : Option (List Char)) (marks : Marks) :
    Except (List Char) ScriptState :=
  match s.bindings.assign name value (s.usualMarks marks) with
  | .error fault => .error fault.message
  | .ok bindings =>
      match s.noticeValue name (value.getD []) with
      | .error text => .error text
      | .ok noticed => .ok { noticed with bindings := bindings }

end ScriptState

/-!
## Work that may need commands

A word is worked out from left to right.  Where the output of a command is needed the work stops and says so;
it goes on once the output is there, in the state and the surroundings of that moment.
-/

/-- The files around a script: the tree and the working directory. -/
structure Surroundings where
  tree : FileTree
  here : NodeId
deriving Inhabited

/-- Why a piece of work fails: it is wrong, and something is said about it, which names the line that is
being read if a mistake of writing is meant, or the processor refuses it with a signal. -/
inductive Trouble where
  | complaint (text : List Char)
  | misread (text : String)
  | crash (signal : Nat)
deriving Repr, Inhabited, DecidableEq

/-- How far a piece of work has got: it is done, it has failed, or it needs the output of a command. -/
inductive Progress (α : Type) where
  | done (state : ScriptState) (value : α)
  | failed (state : ScriptState) (trouble : Trouble)
  | asks (state : ScriptState) (body : Option Statement)
      (resume : Surroundings → ScriptState → List Char → Progress α)
deriving Inhabited

/-- A piece of work. -/
def Expanding (α : Type) : Type :=
  Surroundings → ScriptState → Progress α

namespace Progress

/-- Goes on with more work once some is done. -/
def andThen {α β : Type} : Progress α → Surroundings → (α → Expanding β) → Progress β
  | .done s a, w, f => f a w s
  | .failed s trouble, _, _ => .failed s trouble
  | .asks s body resume, _, f =>
      .asks s body fun w s output => andThen (resume w s output) w f

end Progress

namespace Expanding

instance : Monad Expanding where
  pure a := fun _ s => .done s a
  bind x f := fun w s => (x w s).andThen w f

instance {α : Type} : Inhabited (Expanding α) := ⟨fun _ s => .failed s default⟩

/-- The state. -/
def state : Expanding ScriptState := fun _ s => .done s s

/-- Changes the state. -/
def change (f : ScriptState → ScriptState) : Expanding Unit := fun _ s => .done (f s) ()

/-- The surroundings. -/
def surroundings : Expanding Surroundings := fun w s => .done s w

/-- Gives up. -/
def giveUp {α : Type} (trouble : Trouble) : Expanding α := fun _ s => .failed s trouble

/-- Gives up with a complaint. -/
def fail {α : Type} (text : List Char) : Expanding α := giveUp (.complaint text)

/-- Gives up because of a mistake of writing. -/
def misread {α : Type} (text : String) : Expanding α := giveUp (.misread text)

/-- Does a piece of work; if it fails, something else is taken. -/
def attempt {α : Type} (x : Expanding α) (otherwise : α) : Expanding α :=
  let rec settle : Progress α → Progress α
    | .done s a => .done s a
    | .failed s _ => .done s otherwise
    | .asks s body resume => .asks s body fun w s output => settle (resume w s output)
  fun w s => settle (x w s)

/-- The output of a command. -/
def outputOf (body : Option Statement) : Expanding (List Char) := fun _ s =>
  .asks s body fun _ s output => .done s output

end Expanding

end JobShell.Machine.Script
