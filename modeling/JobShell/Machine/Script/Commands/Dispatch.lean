/-
Module: JobShell.Machine.Script.Commands.Dispatch
Purpose: Carrying out the commands that a script carries out itself.
Main exports: performOwn
-/
import JobShell.Machine.Script.Commands.Bounds
import JobShell.Machine.Script.Commands.Control
import JobShell.Machine.Script.Commands.Describing
import JobShell.Machine.Script.Commands.Input
import JobShell.Machine.Script.Commands.Places
import JobShell.Machine.Script.Commands.Printing
import JobShell.Machine.Script.Commands.Signalling

namespace JobShell.Machine.Script

/-- Carries out a command of the script itself, which was called by a name; `tested` tells whether its
failure is looked at. -/
def performOwn (what : OwnCommand) (tested : Bool) (name : List Char) (arguments : List (List Char))
    (scene : Scene) : Performed :=
  match what with
  | .colon | .true => scene.ends 0
  | .false => scene.ends 1
  | .alias => performAlias scene arguments
  | .bg | .fg => performForward scene arguments
  | .break => performBreak false scene arguments
  | .cd => performCd scene arguments
  | .command => performCommand scene arguments
  | .continue => performBreak true scene arguments
  | .dot => performDot scene arguments
  | .echo => performEcho scene arguments
  | .eval => performEval tested scene arguments
  | .exec => performExec scene arguments
  | .exit => performExit scene arguments
  | .export => performMark "export" { exported := true } scene arguments
  | .getopts => performGetopts scene arguments
  | .hash => performHash scene arguments
  | .jobs => performJobs scene arguments
  | .kill => performKill scene arguments
  | .local => performLocal scene arguments
  | .printf => performPrintf scene arguments
  | .pwd => performPwd scene arguments
  | .read => performRead scene arguments
  | .readonly => performMark "readonly" { readOnly := true } scene arguments
  | .return => performReturn scene arguments
  | .set => performSet scene arguments
  | .shift => performShift scene arguments
  | .test => performTest (name == ['[']) scene arguments
  | .times => performTimes scene
  | .trap => performTrap scene arguments
  | .type => performType scene arguments
  | .ulimit => performUlimit scene arguments
  | .umask => performUmask scene arguments
  | .unalias => performUnalias scene arguments
  | .unset => performUnset scene arguments
  | .wait => performWait scene arguments

end JobShell.Machine.Script
