/-
Module: JobShell.Machine.Process
Purpose: Processes: what they have inherited and what they are doing.
Main exports: Activity, Process
-/
import JobShell.Environment
import JobShell.Kernel
import JobShell.Machine.Script.Frames

namespace JobShell.Machine

open Text (Bytes)
open Script (Frame ScriptState)

/-- What a process is doing. -/
inductive Activity where
  /-- The shell itself, which is run from outside. -/
  | shell
  /-- A child of the shell before its set-up. -/
  | setup (plan : LaunchPlan)
  | running (program : Program) (arguments : List Bytes)
  | sleeping (wake : Nat)
  /-- A script, with what it still has to do. -/
  | script (state : ScriptState) (stack : List Frame)
deriving Inhabited

/-- A process. -/
structure Process where
  number : Nat
  parent : Nat
  directory : NodeId
  descriptors : Descriptors
  mask : Nat
  environment : Environment
  dispositions : Dispositions := Dispositions.initial
  /-- Handled signals that have arrived and still wait to be handled. -/
  pending : List Nat := []
  stopped : Bool := false
  /-- Signals that have arrived while the process was stopped and take effect when it goes on. -/
  held : List Nat := []
  /-- The pipe that the process waits for, and how much it held when the process came to it. -/
  stalled : Option (NodeId × Nat) := none
  /-- The moment up to which the system is still at work for the process. -/
  busyUntil : Nat := 0
  activity : Activity
  /-- The word that tells how the process ended, once it has. -/
  ended : Option Int := none
deriving Inhabited

namespace Process

/-- Whether a process is still alive. -/
def isAlive (p : Process) : Bool :=
  p.ended.isNone

/-- The letter for the state of a process, with its meaning. -/
def stateText (p : Process) : String :=
  if p.ended.isSome then "Z (zombie)"
  else if p.stopped then "T (stopped)"
  else if p.stalled.isSome then "S (sleeping)"
  else
    match p.activity with
    | .sleeping _ | .shell => "S (sleeping)"
    | .script _ (.await _ _ :: _) | .script _ (.attend _ _ _ :: _) => "S (sleeping)"
    | .script _ (.attendAll :: _) | .script _ (.gather _ _ _ _ :: _) => "S (sleeping)"
    | _ => "R (running)"

/-- What the system tells about a process. -/
def statusText (p : Process) : String :=
  s!"State:\t{p.stateText}\nPid:\t{p.number}\nPPid:\t{p.parent}\n"

end Process

end JobShell.Machine
