/-
Module: JobShell.Machine.Script.Frames
Purpose: What a script still has to do once the work at hand is done.  A script that runs is a stack of such
  frames, the innermost first, and its state.
Main exports: Standing, Opening, Call, Frame
-/
import JobShell.Machine.Script.State

namespace JobShell.Machine.Script

/-- How a command stands among others.  One that is tested does not end the script by failing; behind a
final one there is nothing more to do. -/
structure Standing where
  tested : Bool := false
  final : Bool := false
deriving Repr, Inhabited, DecidableEq

/-- When the second of two commands runs: always, if the first one succeeded, or if it failed. -/
inductive Join where
  | always
  | both
  | either
deriving Repr, Inhabited, DecidableEq

/-- Whether the second command runs after a first one with a status. -/
def Join.goesOn (join : Join) (status : Nat) : Bool :=
  match join with
  | always => true
  | both => status == 0
  | either => status != 0

/-- Where more text of a script comes from: nowhere, the standard input, or a file. -/
inductive Feed where
  | nothing
  | input
  | file (id : FileId)
deriving Repr, Inhabited, DecidableEq

/-- A redirection whose word has been worked out. -/
inductive Opening where
  | file (descriptor : Nat) (use : FileUse) (path : List Char)
  | copy (descriptor : Nat) (source : Option Nat)
  | document (descriptor : Nat) (expands : Bool) (text : Word)
deriving Inhabited

/-- A simple command whose words have been worked out.  `shown` holds all of them, `fields` those that are
left once it is clear that a command is meant and not a function of its name, which `plain` tells; with
`usualPath` it is looked for where programs usually are.  A failure of a special command ends the script; a
confined one keeps its assignments to itself. -/
structure Call where
  shown : List (List Char) := []
  fields : List (List Char) := []
  own : Option OwnCommand := none
  plain : Bool := false
  usualPath : Bool := false
  special : Bool := false
  confined : Bool := false
  redirected : Bool := false
  assignments : List Word := []
  standing : Standing := {}
deriving Inhabited

/-- Whether a command becomes another program in the place of the script. -/
def Call.replaces (call : Call) : Bool :=
  call.own == some .exec && 1 < call.fields.length

/-- A part of the work of a script that is still ahead. -/
inductive Frame where
  /-- A command. -/
  | run (statement : Option Statement) (standing : Standing)
  /-- What has to be seen to behind a command; with `checks` its failure may end the script. -/
  | after (checks : Bool) (standing : Standing)
  /-- The second of two commands. -/
  | second (join : Join) (statement : Option Statement) (standing : Standing)
  | negate
  | decide (yes no : Option Statement) (standing : Standing)
  /-- The condition of a loop is done; `last` is the status of the last turn. -/
  | test (untilTrue tested : Bool) (condition body : Option Statement) (last : Nat)
  /-- A turn of a loop is done. -/
  | turn (untilTrue tested : Bool) (condition body : Option Statement)
  /-- The words that a loop over words has left; `ran` tells that a turn is done. -/
  | each (name : List Char) (words : List (List Char)) (body : Option Statement) (tested ran : Bool)
  /-- Gather what a command writes, then go on with the work that needs it. -/
  | gather (descriptor place : Nat) (chunks : List (List Char))
      (resume : Surroundings → ScriptState → List Char → Progress (List Frame))
  /-- What a command has written is there. -/
  | resume (output : List Char)
      (resume : Surroundings → ScriptState → List Char → Progress (List Frame))
  /-- Carry out redirections, then go on in one way or the other. -/
  | redirect (openings : List Opening) (success failure : List Frame)
  /-- Make a descriptor read a text. -/
  | supply (descriptor : Nat) (text : List Char)
  /-- Start a command that is not waited for. -/
  | detached (openings : List Opening) (body : Option Statement)
  /-- Run a command in a process of its own. -/
  | subshell (openings : List Opening) (body : Option Statement) (standing : Standing)
  /-- Set the variables of a simple command. -/
  | assign (call : Call)
  /-- Carry out a simple command, after writing a trace of it. -/
  | perform (call : Call) (trace : Option (List Char))
  /-- Put descriptors back, or let them be from now on. -/
  | restore (keeps : Bool)
  /-- Put variables back. -/
  | unscope
  /-- A function is done. -/
  | returned (positional : Positional) (loops : Nat)
  /-- A command of the script itself that had more to do is done; with `catches` its failures end there. -/
  | finished (speaker : Option (List Char)) (catches : Bool)
  /-- Give up with the status at hand. -/
  | abandon
  /-- Go through the commands of a text.  Without a status the one at hand is meant. -/
  | source (text : Source) (feed : Feed) (isFile : Bool) (standing : Standing) (status : Option Nat)
  /-- The commands for a signal are done. -/
  | trapped (status : Nat) (before : Option Nat)
  /-- The commands for the end of the script are done. -/
  | leaving (status : Nat)
  /-- Wait for a job, which has been started to be waited for, or to give its output. -/
  | await (place : Nat) (substitution : Bool)
  /-- Wait for all jobs. -/
  | attendAll
  /-- Wait for a job, and for those that words name. -/
  | attend (place : Option Nat) (words : List (List Char)) (status : Nat)
  /-- Read a line into variables. -/
  | read (raw : Bool) (names : List (List Char))
deriving Inhabited

end JobShell.Machine.Script
