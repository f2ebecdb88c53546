/-
Module: JobShell.Shell
Purpose: One line at a time: understand it, put in the shell's number, run a builtin or launch a
  program; and the reports between lines.
Main exports: Shell.executeLine, Shell.reportModes, Shell.reportFinished, Shell.shutdown
-/
import JobShell.Builtin
import JobShell.Collect
import JobShell.Mode
import JobShell.PidMark

namespace JobShell

namespace Shell

variable {σ : Type}

/-- The part of the shell that notes about lines come from. -/
def origin : String := "smallsh::shell::executor"

/-- How long background children get to end at shutdown, in milliseconds. -/
def shutdownGrace : Nat := 500

/-- Writes a line on the standard output. -/
def say (k : Kernel σ) (line : String) (sh : Shell σ) : Shell σ :=
  { sh with system := k.write .out (line ++ "\n") sh.system }

/-- Takes a note for information. -/
def inform (k : Kernel σ) (text : String) (sh : Shell σ) : Shell σ :=
  { sh with system := k.note { level := .info, origin := origin, text := text } sh.system }

/-- Remembers how a child ended. -/
def record (status : Termination) (sh : Shell σ) : Shell σ :=
  { sh with state := sh.state.recordStatus status }

/-- Announces a mode. -/
def announce (k : Kernel σ) (sh : Shell σ) (mode : Mode) : Shell σ :=
  (sh.inform k ("mode is now " ++ mode.label)).say k mode.notice

/-- Announces the modes entered since the last time, oldest first. -/
def reportModes (k : Kernel σ) (sh : Shell σ) : Shell σ :=
  match k.toggles sh.system with
  | (seen, s) =>
      match ({ toggles := seen, reported := sh.reported } : ModeSwitch).drain with
      | (modes, switch) =>
          modes.foldl (announce k) { sh with reported := switch.reported, system := s }

/-- Drops a collected child from the background and reports it. -/
def reportCollected (k : Kernel σ) (sh : Shell σ) (child : Collected) : Shell σ :=
  ({ sh with state := (sh.state.untrack child.pid).recordStatus child.status }).say k child.describe

/-- Collects the children that have ended and reports each of them. -/
def reportFinished (k : Kernel σ) (sh : Shell σ) : List Collected × Shell σ :=
  match sweep k sh.system with
  | (collected, s) => (collected, collected.foldl (reportCollected k) { sh with system := s })

/-- After a foreground program: remember how it ended, say so if a signal killed it, and announce the
modes entered meanwhile. -/
def afterForeground (k : Kernel σ) (status : Termination) (sh : Shell σ) : Shell σ :=
  let recorded := sh.record status
  let told := match status with
    | .signaled _ => recorded.say k status.describe
    | .exited _ => recorded
  told.reportModes k

/-- After a background program was started: name it, and report it at once if it has ended already. -/
def afterBackground (k : Kernel σ) (pid : Pid) (finished : Option Termination) (sh : Shell σ) :
    Shell σ :=
  let named := sh.say k s!"background pid is {pid}"
  match finished with
  | some status => (named.record status).say k (Collected.mk pid status).describe
  | none => { named with state := named.state.track pid }

/-- Launches a program.  The mode is read once, before anything else. -/
def launchCommand (k : Kernel σ) (c : Command) (sh : Shell σ) :
    Option (Except Failure Flow × Shell σ) :=
  match k.toggles sh.system with
  | (seen, s) =>
      let foregroundOnly := ({ toggles := seen } : ModeSwitch).isForegroundOnly
      match launch k c foregroundOnly s with
      | none => none
      | some (.error e, s') => some (.error (.process e), { sh with system := s' })
      | some (.ok (.foreground _ status), s') =>
          some (.ok .proceed, afterForeground k status { sh with system := s' })
      | some (.ok (.background pid finished), s') =>
          some (.ok .proceed, afterBackground k pid finished { sh with system := s' })

/-- Runs a command with its marks replaced: a builtin in the shell itself, anything else as a child. -/
def dispatch (k : Kernel σ) (c : Command) (sh : Shell σ) : Option (Except Failure Flow × Shell σ) :=
  match c.program.bind Builtin.ofName with
  | some builtin =>
      match sh.runBuiltin k builtin c.arguments with
      | (.ok flow, sh') => some (.ok flow, sh')
      | (.error e, sh') => some (.error (.directory e), sh')
  | none => sh.launchCommand k c

/-- Executes a line.  A line without a command, or with redirections only, does nothing. -/
def executeLine (k : Kernel σ) (line : String) (sh : Shell σ) :
    Option (Except Failure Flow × Shell σ) :=
  match Command.parse line with
  | .error e => some (.error (.syntactic e), sh)
  | .ok none => some (.ok .proceed, sh)
  | .ok (some c) =>
      if c.isEmpty then some (.ok .proceed, sh)
      else sh.dispatch k (c.substitutePid (toString sh.state.pid))

/-- Stops and collects the background children that are left. -/
def shutdown (k : Kernel σ) (sh : Shell σ) : Option (Shell σ) :=
  match sh.state.takeBackground with
  | (pending, state) =>
      let taken := { sh with state := state }
      if pending.isEmpty then some taken
      else
        let informed := taken.inform k s!"terminating {pending.length} background children"
        match stopAll k pending shutdownGrace informed.system with
        | none => none
        | some (_, s) => some { informed with system := s }

end Shell

end JobShell
