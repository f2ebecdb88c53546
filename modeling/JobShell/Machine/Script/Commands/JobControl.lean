/-
Module: JobShell.Machine.Script.Commands.JobControl
Purpose: The commands for the jobs of a script: showing them, bringing them forward, and waiting for them.
Main exports: jobOfWord, performJobs, performForward, performWait, attend
-/
import JobShell.Machine.Script.Commands.Performed

namespace JobShell.Machine.Script

/-!
## Jobs by name
-/

/-- The job that is the present one, or else the one before it. -/
def recentJob (jobs : Jobs) (place : Nat) (missing : String) : Except (List Char) Job :=
  match jobs[place]? with
  | some job => .ok job
  | none => .error missing.toList

/-- The job that a word means.  Jobs have no text by which they could be told apart. -/
def jobOfWord (jobs : Jobs) (word : List Char) : Except (List Char) Job :=
  let absent : List Char := "No such job: ".toList ++ word
  match word with
  | ['%'] | ['%', '+'] | ['%', '%'] => recentJob jobs 0 "No current job"
  | ['%', '-'] => recentJob jobs 1 "No previous job"
  | '%' :: name =>
      if name.all Char.isDigit then
        match jobs.find? (Utility.digitsValue 10 name) with
        | some job => .ok job
        | none => .error absent
      else if name = ['?'] then
        match jobs with
        | [] => .error absent
        | [job] => .ok job
        | _ => .error (word ++ ": ambiguous".toList)
      else .error absent
  | _ => .error absent

/-!
## Showing jobs
-/

/-- How jobs are shown: in what state they are, with the numbers of their processes too, or by the number of
the first one alone. -/
inductive JobView where
  | state
  | numbers
  | leader
deriving Repr, DecidableEq

/-- How a job that has ended is described. -/
def endText (word : Int) : List Char :=
  let signal := WaitWord.low word
  if signal ≠ 0 then (describeSignal signal).toList
  else
    let code := WaitWord.second word
    if code = 0 then "Done".toList else "Done(".toList ++ (toString code).toList ++ [')']

/-- Text filled up with blanks to a width; there is one blank at least. -/
def padTo (width : Nat) (text : List Char) : List Char :=
  text ++ List.replicate (max 1 (width - text.length)) ' '

/-- The width of what stands in front of the text of a job. -/
def jobColumn : Nat := 33

/-- The lines that show a job. -/
def jobLines (jobs : Jobs) (view : JobView) (job : Job) : List Char :=
  let number (p : JobProcess) : List Char := (toString p.number).toList
  let mark :=
    if (jobs[0]?).any (·.place == job.place) then '+'
    else if (jobs[1]?).any (·.place == job.place) then '-'
    else ' '
  let front := '[' :: (toString job.place).toList ++ [']', ' ', mark, ' ']
  let state := if job.isRunning then "Running".toList else endText job.word
  match view, job.processes with
  | .leader, p :: _ => number p ++ ['\n']
  | .numbers, p :: more =>
      let others := more.flatMap fun q =>
        " |\n".toList ++
          padTo (jobColumn + 3) (List.replicate front.length ' ' ++ number q ++ [' '])
      padTo jobColumn (front ++ number p ++ ' ' :: state) ++ others ++ ['\n']
  | _, processes =>
      padTo jobColumn (front ++ state) ++ processes.tail.flatMap (fun _ => [' ', '|', ' ']) ++ ['\n']

/-- Shows a job.  Once it has been seen to have ended it is forgotten. -/
def showJob (view : JobView) (scene : Scene) (job : Job) : Scene :=
  let shown := scene.print (jobLines scene.state.jobs view job)
  if job.isRunning then shown
  else shown.modifyState fun s => { s with jobs := s.jobs.forget job.place }

/-- Shows the jobs that words mean. -/
def showNamed (view : JobView) : List (List Char) → Scene → Performed
  | [], scene => scene.ends 0
  | word :: rest, scene =>
      match jobOfWord scene.state.jobs word with
      | .error text => scene.fails text
      | .ok job => showNamed view rest (showJob view scene job)

/-- Shows jobs. -/
def performJobs (scene : Scene) (arguments : List (List Char)) : Performed :=
  withLetters scene [('l', false), ('p', false)] arguments fun letters =>
    let view := match letters.found.getLast? with
      | none => JobView.state
      | some (c, _) => if c = 'l' then .numbers else .leader
    if letters.rest.isEmpty then
      let known := scene.reap none
      (known.state.jobs.foldl (showJob view) known).ends 0
    else showNamed view letters.rest scene

/-- Brings a job forward, which cannot be done without a terminal. -/
def performForward (scene : Scene) (arguments : List (List Char)) : Performed :=
  withLetters scene [] arguments fun letters =>
    let named := match letters.rest with
      | [] => (recentJob scene.state.jobs 0 "No current job").map fun _ => "(null)".toList
      | word :: _ => (jobOfWord scene.state.jobs word).map fun _ => word
    match named with
    | .error text => scene.fails text
    | .ok name => scene.fails ("job ".toList ++ name ++ " not created under job control".toList)

/-!
## Waiting
-/

/-- Waits for jobs. -/
def performWait (scene : Scene) (arguments : List (List Char)) : Performed :=
  withLetters scene [] arguments fun letters =>
    scene.goesOn [if letters.rest.isEmpty then .attendAll else .attend none letters.rest 127]

/-- Marks jobs as waited for. -/
def markWaited (scene : Scene) (which : Job → Bool) : Scene :=
  scene.modifyState fun s =>
    { s with
      jobs := s.jobs.map fun job => if which job then { job with waited := true } else job }

/-- The status of a wait that a signal cuts short. -/
def interruptedStatus? (scene : Scene) : Option Nat :=
  (scene.task.process.pending.getLast?).map (128 + ·)

/-- Waits for all jobs; nothing changes while there is nothing to learn. -/
def attendAll (scene : Scene) : Scene :=
  let running (scene : Scene) : Bool := scene.state.jobs.any (·.isRunning)
  let stays := scene.push [.attendAll]
  if !running scene then (markWaited scene fun _ => true).withStatus 0
  else
    match Scene.endedChildren scene.machine scene.task.process.number with
    | [] =>
        match interruptedStatus? scene with
        | some status => scene.withStatus status
        | none => stays
    | _ => stays.reap none

/-- The job of a number of a process, or of the name of a job. -/
def waitedJob (jobs : Jobs) (word : List Char) : Except (List Char) (Option Job) :=
  if word.head? = some '%' then (jobOfWord jobs word).map some
  else
    match argumentNumber? word with
    | none => .error (badNumber word)
    | some number => .ok (jobs.ofProcess? number)

/-- Waits for a job, and then for those that words name; `status` is the one so far. -/
def attend (place : Option Nat) (words : List (List Char)) (status : Nat) (scene : Scene) : Scene :=
  match place.bind scene.state.jobs.find? with
  | some job =>
      if !job.isRunning then
        (markWaited scene fun other => other.place == job.place).push
          [.attend none words (statusOfWord job.word)]
      else
        let stays := scene.push [.attend place words status]
        match Scene.endedChildren scene.machine scene.task.process.number with
        | [] =>
            match interruptedStatus? scene with
            | some status => scene.withStatus status
            | none => stays
        | _ => stays.reap place
  | none =>
      match words with
      | [] => scene.withStatus status
      | word :: rest =>
          match waitedJob scene.state.jobs word with
          | .error text => scene.fail text
          | .ok none => scene.push [.attend none rest 127]
          | .ok (some job) => scene.push [.attend (some job.place) rest status]

end JobShell.Machine.Script
