/-
Module: JobShell.Machine.Signals
Purpose: Signals, what a process has said about them, and what they do otherwise.
Main exports: Disposition, Dispositions, Dispositions.afterExec, Dispositions.prepareChild,
  DefaultAction, defaultAction, signalNames
-/
namespace JobShell.Machine

/-- What a process wants to happen when a signal arrives. -/
inductive Disposition where
  | default
  | ignore
  | handler
deriving Repr, Inhabited, DecidableEq

/-- The dispositions of a process by signal number. -/
abbrev Dispositions := Nat → Disposition

/-- The signals that the machine treats by name. -/
def interrupt : Nat := 2

/-- The signal that nothing withstands. -/
def killSignal : Nat := 9

/-- The signal of a pipe that nobody reads. -/
def brokenPipe : Nat := 13

/-- The signal that tells of the end of a child. -/
def childSignal : Nat := 17

/-- The signal that lets a stopped process go on. -/
def continueSignal : Nat := 18

/-- The stop that nothing withstands. -/
def stopSignal : Nat := 19

/-- The stop asked for with the suspend key. -/
def suspendSignal : Nat := 20

/-- The highest signal number. -/
def lastSignal : Nat := 64

namespace Dispositions

/-- Everything at its default. -/
def initial : Dispositions := fun _ => .default

/-- Changes the disposition of one signal. -/
def set (d : Dispositions) (signal : Nat) (what : Disposition) : Dispositions :=
  fun s => if s = signal then what else d s

/-- A new program knows no handlers: what was handled goes back to its default, what was ignored stays
ignored. -/
def afterExec (d : Dispositions) : Dispositions :=
  fun s => if d s = .handler then .default else d s

/-- The set-up of a child: in the foreground an interrupt ends it, in the background the disposition it
came with stays; the suspend key reaches no child. -/
def prepareChild (d : Dispositions) (foreground : Bool) : Dispositions :=
  (if foreground then d.set interrupt .default else d).set suspendSignal .ignore

/-- The disposition of one signal after another one was set. -/
theorem set_apply (d : Dispositions) (signal other : Nat) (what : Disposition) :
    d.set signal what other = if other = signal then what else d other := rfl

end Dispositions

/-- What a signal does to a process that has said nothing about it. -/
inductive DefaultAction where
  | terminate
  | nothing
  | stop
deriving Repr, DecidableEq

/-- The default action of a signal. -/
def defaultAction (signal : Nat) : DefaultAction :=
  if signal = childSignal || signal = continueSignal || signal = 23 || signal = 28 then .nothing
  else if stopSignal ≤ signal && signal ≤ 22 then .stop
  else .terminate

/-- The names of the signals, without their common beginning, by number from one on. -/
def signalNames : List String :=
  ["HUP", "INT", "QUIT", "ILL", "TRAP", "ABRT", "BUS", "FPE", "KILL", "USR1", "SEGV", "USR2", "PIPE",
    "ALRM", "TERM", "STKFLT", "CHLD", "CONT", "STOP", "TSTP", "TTIN", "TTOU", "URG", "XCPU", "XFSZ",
    "VTALRM", "PROF", "WINCH", "IO", "PWR", "SYS"]

/-- What is said of a process that a signal has killed, by number from one on. -/
def signalDescriptions : List String :=
  ["Hangup", "Interrupt", "Quit", "Illegal instruction", "Trace/breakpoint trap", "Aborted",
    "Bus error", "Floating point exception", "Killed", "User defined signal 1", "Segmentation fault",
    "User defined signal 2", "Broken pipe", "Alarm clock", "Terminated", "Stack fault",
    "Child exited", "Continued", "Stopped (signal)", "Stopped", "Stopped (tty input)",
    "Stopped (tty output)", "Urgent I/O condition", "CPU time limit exceeded",
    "File size limit exceeded", "Virtual timer expired", "Profiling timer expired", "Window changed",
    "I/O possible", "Power failure", "Bad system call"]

/-- What is said of a process that a signal has killed. -/
def describeSignal (signal : Nat) : String :=
  match signal with
  | 0 => "Unknown signal 0"
  | n + 1 =>
      match signalDescriptions[n]? with
      | some text => text
      | none =>
          if 34 ≤ signal && signal ≤ lastSignal then s!"Real-time signal {signal - 34}"
          else s!"Unknown signal {signal}"

end JobShell.Machine
