/-
Module: JobShell.Collect
Purpose: Collecting children that have ended, and stopping those that have not.
Main exports: sweep, stopAll
-/
import JobShell.Launch

namespace JobShell

variable {σ : Type}

/-- The part of the shell that notes about collecting come from. -/
def collectOrigin : String := "smallsh::process::reaper"

/-- A warning about collecting. -/
def collectWarning (text : String) : Diagnostics.Note :=
  { level := .warn, origin := collectOrigin, text := text }

/-- Collects whatever has ended, at most so many reports long.  Reports that are not of an end are
skipped; the first silence or failure ends the sweep, and what was collected before it is kept. -/
def sweepWithin (k : Kernel σ) : Nat → σ → List Collected × σ
  | 0, s => ([], s)
  | fuel + 1, s =>
      match k.poll .any s with
      | (.quiet, s') => ([], s')
      | (.failed reason, s') =>
          if reason = Errno.noChild then ([], s')
          else if reason = Errno.interrupted then sweepWithin k fuel s'
          else ([], k.note (collectWarning (ProcessFailure.wait reason).message) s')
      | (.changed pid word, s') =>
          match WaitWord.decode word with
          | .error reason => ([], k.note (collectWarning (ProcessFailure.wait reason).message) s')
          | .ok none => sweepWithin k fuel s'
          | .ok (some status) =>
              match sweepWithin k fuel s' with
              | (others, s'') => (⟨pid, status⟩ :: others, s'')

/-- Collects every child that has ended, without waiting. -/
def sweep (k : Kernel σ) (s : σ) : List Collected × σ :=
  sweepWithin k (k.backlog s + 1) s

/-- Sends a signal to a process, which may be gone already. -/
def send (k : Kernel σ) (pid : Pid) (signal : StopSignal) (s : σ) : σ :=
  match k.kill pid signal s with
  | (.ok (), s') => s'
  | (.error reason, s') =>
      if reason = Errno.noProcess then s'
      else
        k.note
          (collectWarning (s!"cannot send {signal.name} to pid {pid}: " ++ reason.brief)) s'

/-- How long to wait between two rounds of asking, in milliseconds. -/
def pollInterval : Nat := 10

/-- Asks once after each child: those that have ended, and those that are still there.  A child that
cannot be asked after has been collected before. -/
def pollEach (k : Kernel σ) : List Pid → σ → List Collected × List Pid × σ
  | [], s => ([], [], s)
  | pid :: rest, s =>
      match pollFor k pid s with
      | (answer, s') =>
          match pollEach k rest s' with
          | (ended, pending, s'') =>
              match answer with
              | .ok (some status) => (⟨pid, status⟩ :: ended, pending, s'')
              | .ok none => (ended, pid :: pending, s'')
              | .error _ => (ended, pending, s'')

/-- How many rounds fit into a grace period, one at its start included. -/
def roundsWithin (grace : Nat) : Nat :=
  (grace + pollInterval - 1) / pollInterval + 1

/-- Asks round after round until nobody is left or the deadline has passed. -/
def pollUntil (k : Kernel σ) (deadline : Nat) : Nat → List Pid → σ → List Collected × List Pid × σ
  | 0, pids, s => ([], pids, s)
  | rounds + 1, pids, s =>
      match pollEach k pids s with
      | (ended, pending, s') =>
          if pending.isEmpty || deadline ≤ k.clock s' then (ended, pending, s')
          else
            match pollUntil k deadline rounds pending (k.sleep pollInterval s') with
            | (later, left, s'') => (ended ++ later, left, s'')

/-- Kills children and waits for each of them. -/
def killEach (k : Kernel σ) : List Pid → σ → Option (List Collected × σ)
  | [], s => some ([], s)
  | pid :: rest, s =>
      let warned := k.note (collectWarning s!"pid {pid} ignored SIGTERM, killing it") s
      match waitFor k pid (send k pid .kill warned) with
      | none => none
      | some (answer, s') =>
          match killEach k rest s' with
          | none => none
          | some (others, s'') =>
              match answer with
              | .ok status => some (⟨pid, status⟩ :: others, s'')
              | .error _ => some (others, s'')

/-- Asks every child to end, gives them a grace period in milliseconds, then kills and collects those
that are left. -/
def stopAll (k : Kernel σ) (pids : List Pid) (grace : Nat) (s : σ) : Option (List Collected × σ) :=
  let asked := pids.foldl (fun s pid => send k pid .terminate s) s
  match pollUntil k (k.clock asked + grace * 1000) (roundsWithin grace) pids asked with
  | (ended, left, s') =>
      match killEach k left s' with
      | none => none
      | some (killed, s'') => some (ended ++ killed, s'')

end JobShell
