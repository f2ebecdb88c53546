/-
Module: JobShell.Termination
Purpose: How a child ended, and the lines that say so.
Main exports: Pid, Termination, Termination.describe, Collected, Collected.describe
-/
namespace JobShell

/-- The number of a process. -/
abbrev Pid := Int

/-- How a process ended: by itself with a code, or killed by a signal. -/
inductive Termination where
  | exited (code : Int)
  | signaled (signal : Int)
deriving Repr, DecidableEq

namespace Termination

/-- Before any child has ended, the status is that of a program that succeeded. -/
def success : Termination := .exited 0

instance : Inhabited Termination := ⟨success⟩

/-- The words for a termination. -/
def describe : Termination → String
  | exited code => s!"exit value {code}"
  | signaled signal => s!"terminated by signal {signal}"

end Termination

/-- A child that has been waited for, with the way it ended. -/
structure Collected where
  pid : Pid
  status : Termination
deriving Repr, Inhabited, DecidableEq

/-- The line that reports a background child once it is collected. -/
def Collected.describe (child : Collected) : String :=
  s!"background pid {child.pid} is done: {child.status.describe}"

end JobShell
