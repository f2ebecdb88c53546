/-
Module: JobShell.Invocation
Purpose: A whole run of the shell: options, settings, diagnostics, loop, exit code.
Main exports: version, Invocation, Invocation.start, Invocation.run
-/
import JobShell.Loop
import JobShell.Settings

namespace JobShell

/-- The version of the shell. -/
def version : String := "0.0.1"

/-- What a run starts from: the arguments, the environment, and whether diagnostics go to a
terminal. -/
structure Invocation where
  arguments : List String
  environment : Environment
  terminal : Bool := false
deriving Inhabited

namespace Invocation

variable {σ : Type}

/-- A shell that has just been started. -/
def freshShell (k : Kernel σ) (pid : Pid) (s : σ) : Shell σ :=
  { state := { pid := pid, directory := (k.workingDirectory s).getD [] }, system := s }

/-- Runs the loop of a shell under settings. -/
def runShell (k : Kernel σ) (settings : Settings) (env : Environment) (pid : Pid) (s : σ) :
    Option (Except Failure Unit × σ) :=
  let buffer := LineBuffer.forTerminal (env.text? "TERM") prompt
  let shell := freshShell k pid (k.arm s)
  (shell.run k (LineBuffer.source k) (Emphasis.ofSetting settings.color env) buffer).map
    fun result => (result.1, result.2.system)

/-- What the arguments ask for: help and version are shown at once, anything else runs the shell. -/
def start (i : Invocation) (k : Kernel σ) (pid : Pid) (s : σ) : Option (Except Failure Unit × σ) :=
  match ({} : Options).parse i.arguments with
  | (.error e, _) => some (.error e, s)
  | (.ok (), options) =>
      if options.isSet "help" then some (.ok (), k.write .out Options.usage s)
      else if options.isSet "version" then
        some (.ok (), k.write .out ("smallsh " ++ version ++ "\n") s)
      else
        let settings := Settings.ofEnvironment options i.environment i.terminal
        match Diagnostics.Filter.parse settings.logFilter with
        | .error e =>
            some (.error (.diagnostics (Diagnostics.Filter.refusal settings.logFilter e)), s)
        | .ok filter => runShell k settings i.environment pid (k.listen filter s)

/-- A whole run with its exit code; a failure is reported plainly. -/
def run (i : Invocation) (k : Kernel σ) (pid : Pid) (s : σ) : Option (Nat × σ) :=
  (i.start k pid s).map fun result =>
    match result with
    | (.ok (), s') => (0, s')
    | (.error e, s') => (1, k.write .err (Shell.failureLine e ++ "\n") s')

end Invocation

end JobShell
