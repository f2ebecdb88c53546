/-
Module: JobShell.Loop
Purpose: The loop of the shell: report, read a line, execute it, until `exit` or the end of input; then
  shut down, whatever the loop ended with.
Main exports: Shell.runLoop, Shell.run
-/
import JobShell.Emphasis
import JobShell.Reader
import JobShell.Shell

namespace JobShell

namespace Shell

variable {ρ σ : Type}

/-- The line that reports a failure. -/
def failureLine (e : Failure) : String :=
  "smallsh: " ++ e.message

/-- Writes a failure on the standard error. -/
def reportFailure (k : Kernel σ) (emphasis : Emphasis) (e : Failure) (sh : Shell σ) : Shell σ :=
  { sh with system := k.write .err (emphasis.apply (failureLine e) ++ "\n") sh.system }

/-- Takes a note of a failure that ends the loop. -/
def noteFatal (k : Kernel σ) (e : Failure) (sh : Shell σ) : Shell σ :=
  { sh with
    system := k.note { level := .error, origin := "smallsh::shell", text := e.message } sh.system }

/-- What is done before each reading: pending mode changes are announced, then ended children are
reported. -/
def beforeReading (k : Kernel σ) (sh : Shell σ) : Shell σ :=
  ((sh.reportModes k).reportFinished k).2

/-- Runs the loop for at most so many readings. -/
def runWithin (k : Kernel σ) (source : LineSource ρ σ) (emphasis : Emphasis) :
    Nat → ρ → Shell σ → Option (Except Failure Unit × ρ × Shell σ)
  | 0, _, _ => none
  | fuel + 1, r, sh =>
      let ready := sh.beforeReading k
      match source.next r ready.system with
      | none => none
      | some (.error cause, r', s) => some (.error (.reading cause), r', { ready with system := s })
      | some (.ok .ended, r', s) => some (.ok (), r', { ready with system := s })
      | some (.ok .interrupted, r', s) =>
          runWithin k source emphasis fuel r' (({ ready with system := s } : Shell σ).say k "")
      | some (.ok (.line text), r', s) =>
          match ({ ready with system := s } : Shell σ).executeLine k text with
          | none => none
          | some (.ok .proceed, sh') => runWithin k source emphasis fuel r' sh'
          | some (.ok .exit, sh') => some (.ok (), r', sh')
          | some (.error e, sh') =>
              if e.isFatal then some (.error e, r', sh'.noteFatal k e)
              else runWithin k source emphasis fuel r' (sh'.reportFailure k emphasis e)

/-- Runs the loop until it ends. -/
def runLoop (k : Kernel σ) (source : LineSource ρ σ) (emphasis : Emphasis) (r : ρ) (sh : Shell σ) :
    Option (Except Failure Unit × ρ × Shell σ) :=
  runWithin k source emphasis (source.bound r sh.system + 1) r sh

/-- Runs the loop and then stops what still runs in the background. -/
def run (k : Kernel σ) (source : LineSource ρ σ) (emphasis : Emphasis) (r : ρ) (sh : Shell σ) :
    Option (Except Failure Unit × Shell σ) :=
  match runLoop k source emphasis r sh with
  | none => none
  | some (result, _, sh') => (sh'.shutdown k).map fun ended => (result, ended)

end Shell

end JobShell
