/-
Module: JobShell.Machine.Script.Jobs
Purpose: The jobs of a script: the processes that it has started together, and how they have ended.
Main exports: Job, Jobs, Jobs.start, Jobs.noteEnd, statusOfWord
-/
import JobShell.Machine.Signals
import JobShell.WaitWord

namespace JobShell.Machine.Script

/-- A process of a job; `word` tells how it ended, once that is known. -/
structure JobProcess where
  number : Nat
  word : Option Int := none
deriving Repr, Inhabited, DecidableEq

/-- A job with its number.  One that has been waited for may be forgotten when its number is needed. -/
structure Job where
  place : Nat
  processes : List JobProcess
  waited : Bool := false
deriving Repr, Inhabited, DecidableEq

namespace Job

/-- Whether a process of a job is still running, as far as is known. -/
def isRunning (job : Job) : Bool :=
  job.processes.any (·.word.isNone)

/-- Whether a process belongs to a job. -/
def holds (job : Job) (number : Nat) : Bool :=
  job.processes.any (·.number == number)

/-- The word that tells how a job ended: that of its last process. -/
def word (job : Job) : Int :=
  (job.processes.getLast?.bind (·.word)).getD 0

end Job

/-- The jobs of a script, the present one first. -/
abbrev Jobs := List Job

namespace Jobs

/-- The job of a number. -/
def find? (jobs : Jobs) (place : Nat) : Option Job :=
  List.find? (fun job : Job => job.place == place) jobs

/-- The job that a process is the last one of. -/
def ofProcess? (jobs : Jobs) (number : Nat) : Option Job :=
  List.find? (fun job : Job => job.processes.getLast?.any (·.number == number)) jobs

/-- Forgets a job. -/
def forget (jobs : Jobs) (place : Nat) : Jobs :=
  jobs.filter fun job => job.place != place

/-- Whether a number may be given to a new job. -/
def isFree (jobs : Jobs) (place : Nat) : Bool :=
  (jobs.find? place).all fun job => !job.isRunning && job.waited

/-- The first number that may be given to a new job. -/
def freePlace (jobs : Jobs) : Nat :=
  ((List.range (jobs.length + 1)).find? fun n => jobs.isFree (n + 1)).getD jobs.length + 1

/-- Adds a job, which is the present one from now on; gives its number too. -/
def start (jobs : Jobs) (processes : List JobProcess) : Nat × Jobs :=
  let place := jobs.freePlace
  (place, { place := place, processes := processes } :: jobs.forget place)

/-- Notes how a process has ended.  Jobs that have ended before do not change. -/
def noteEnd (jobs : Jobs) (number : Nat) (word : Int) : Jobs :=
  jobs.map fun job =>
    if job.isRunning then
      { job with
        processes := job.processes.map fun p =>
          if p.number = number then { p with word := some word } else p }
    else job

end Jobs

/-- The status that the word of a process stands for. -/
def statusOfWord (word : Int) : Nat :=
  match WaitWord.decode word with
  | .ok (some (.exited code)) => code.toNat
  | _ => 128 + WaitWord.low word

/-- The signal that killed a process, if it is one that is spoken of. -/
def spokenSignal? (word : Int) : Option Nat :=
  let signal := WaitWord.low word
  if signal = 0 || signal = interrupt || signal = brokenPipe then none else some signal

end JobShell.Machine.Script
