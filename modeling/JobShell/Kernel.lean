/-
Module: JobShell.Kernel
Purpose: What the shell asks of the system under it.  A kernel is a family of functions on a state of
  its own; whatever else happens to that state while a call is made (children ending, signals arriving,
  time passing) is part of the function, so the shell above can be reasoned about for every system.
  Calls that may never come back answer in `Option`.
Main exports: Redirection, LaunchPlan, WaitTarget, WaitAnswer, Stream, Kernel
-/
import JobShell.Command
import JobShell.Diagnostics
import JobShell.Errno
import JobShell.Text.Utf8
import JobShell.WaitWord

namespace JobShell

/-- A standard stream of a child, and the file it is to be opened on. -/
structure Redirection where
  direction : Direction
  path : String
deriving Repr, Inhabited, DecidableEq

/-- Everything a child needs to know, fixed before it is made. -/
structure LaunchPlan where
  argv : List String
  foreground : Bool
  redirections : List Redirection
deriving Repr, Inhabited, DecidableEq

/-- Whom a wait asks about. -/
inductive WaitTarget where
  | any
  | only (pid : Pid)
deriving Repr, DecidableEq

/-- The answer to a wait: nothing to report, a change of a child with its word, or a failure. -/
inductive WaitAnswer where
  | quiet
  | changed (pid : Pid) (word : Int)
  | failed (reason : Errno)
deriving Repr, DecidableEq

/-- The termination in an answer, if it holds one. -/
def WaitAnswer.termination : WaitAnswer → Except Errno (Option Termination)
  | quiet => .ok none
  | changed _ word => WaitWord.decode word
  | failed reason => .error reason

/-- The signals that the shell sends. -/
inductive StopSignal where
  | terminate
  | kill
deriving Repr, DecidableEq

/-- The number of a signal that the shell sends. -/
def StopSignal.number : StopSignal → Nat
  | terminate => 15
  | kill => 9

/-- The name of a signal that the shell sends. -/
def StopSignal.name : StopSignal → String
  | terminate => "SIGTERM"
  | kill => "SIGKILL"

/-- The streams on which the shell itself writes. -/
inductive Stream where
  | out
  | err
deriving Repr, DecidableEq

/-- The calls of the shell. -/
structure Kernel (σ : Type) where
  /-- Makes a child that sets itself up by the plan and runs its program. -/
  fork : LaunchPlan → σ → Except Errno Pid × σ
  /-- Waits until a child changes. -/
  await : Pid → σ → Option (WaitAnswer × σ)
  /-- Asks whether a child has changed. -/
  poll : WaitTarget → σ → WaitAnswer × σ
  /-- A bound on the changes that can still be reported. -/
  backlog : σ → Nat
  /-- Sends a signal. -/
  kill : Pid → StopSignal → σ → Except Errno Unit × σ
  /-- Sleeps for some milliseconds. -/
  sleep : Nat → σ → σ
  /-- The time in microseconds. -/
  clock : σ → Nat
  /-- The count of mode toggles so far. -/
  toggles : σ → UInt64 × σ
  /-- Changes the working directory. -/
  changeDirectory : Text.Bytes → σ → Except Errno Unit × σ
  /-- The name of the working directory, unless the system cannot tell. -/
  workingDirectory : σ → Option Text.Bytes
  /-- The home directory that the environment names, if it names one. -/
  homeVariable : σ → Option Text.Bytes
  /-- The home directory of the account. -/
  accountHome : σ → Option Text.Bytes
  /-- Reads at most so many bytes of input; none at its end. -/
  read : Nat → σ → Option (Except Errno Text.Bytes × σ)
  /-- A bound on the bytes still to be read. -/
  unread : σ → Nat
  /-- Writes on a stream. -/
  write : Stream → String → σ → σ
  /-- Takes a diagnostic note. -/
  note : Diagnostics.Note → σ → σ
  /-- Sets the filter for diagnostic notes. -/
  listen : Diagnostics.Filter → σ → σ
  /-- Makes the shell ignore interrupts and count suspend signals. -/
  arm : σ → σ

end JobShell
