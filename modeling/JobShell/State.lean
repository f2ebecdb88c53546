/-
Module: JobShell.State
Purpose: What the shell remembers from line to line.
Main exports: ShellState, ShellState.track, ShellState.untrack, ShellState.takeBackground,
  ShellState.recordStatus, ShellState.setDirectory
-/
import JobShell.Termination
import JobShell.Text.Utf8

namespace JobShell

/-- The memory of a shell: its own process, how the last child ended, the working directory by name,
and the background children still to be collected, in the order in which they were launched. -/
structure ShellState where
  pid : Pid
  lastStatus : Termination := .success
  directory : Text.Bytes
  background : List Pid := []
deriving Repr, DecidableEq

namespace ShellState

/-- Remembers how a child ended. -/
def recordStatus (s : ShellState) (status : Termination) : ShellState :=
  { s with lastStatus := status }

/-- Remembers the working directory. -/
def setDirectory (s : ShellState) (directory : Text.Bytes) : ShellState :=
  { s with directory := directory }

/-- Adds a background child. -/
def track (s : ShellState) (pid : Pid) : ShellState :=
  { s with background := s.background ++ [pid] }

/-- Drops a background child. -/
def untrack (s : ShellState) (pid : Pid) : ShellState :=
  { s with background := s.background.filter (· != pid) }

/-- Hands over all background children. -/
def takeBackground (s : ShellState) : List Pid × ShellState :=
  (s.background, { s with background := [] })

end ShellState

end JobShell
