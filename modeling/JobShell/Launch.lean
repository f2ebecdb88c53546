/-
Module: JobShell.Launch
Purpose: Starting a program: the plan for the child, the decision between foreground and background,
  and the wait that follows.
Main exports: LaunchPlan.ofCommand, waitFor, pollFor, Launch, launch
-/
import JobShell.Failure
import JobShell.Kernel

namespace JobShell

namespace LaunchPlan

/-- The device that stands in for the input of a background program. -/
def nullDevice : String := "/dev/null"

/-- Whether a text can be handed to the system, whose strings end at the first zero. -/
def isSafe (text : String) : Bool :=
  !text.toList.contains '\x00'

/-- The first text that cannot be handed to the system. -/
def firstUnsafe (texts : List String) : Option String :=
  texts.find? fun text => !isSafe text

/-- The redirections of a command, the input first.  A background command without any reads from the
null device. -/
def redirectionsOf (c : Command) (background : Bool) : List Redirection :=
  let asked :=
    (c.input.map (Redirection.mk .input)).toList ++ (c.output.map (Redirection.mk .output)).toList
  if asked.isEmpty && background then [⟨.input, nullDevice⟩] else asked

/-- The plan for a command.  There must be a program, and no argument and no path may hold a zero; the
arguments are looked at first, then the input path, then the output path. -/
def ofCommand (c : Command) (background : Bool) : Except ProcessFailure LaunchPlan :=
  if c.isEmpty then .error .nothingToRun
  else
    match firstUnsafe (c.argv ++ c.input.toList ++ c.output.toList) with
    | some text => .error (.nulInArgument text)
    | none =>
        .ok
          { argv := c.argv
            foreground := !background
            redirections := redirectionsOf c background }

/-- The argument vector as the system takes it, closed by an empty entry. -/
def vector (plan : LaunchPlan) : List (Option String) :=
  plan.argv.map some ++ [none]

end LaunchPlan

variable {σ : Type}

/-- Waits for a child until it has ended, at most so many reports long. -/
def waitWithin (k : Kernel σ) (pid : Pid) : Nat → σ → Option (Except ProcessFailure Termination × σ)
  | 0, _ => none
  | fuel + 1, s =>
      match k.await pid s with
      | none => none
      | some (answer, s') =>
          match answer.termination with
          | .ok (some status) => some (.ok status, s')
          | .ok none => waitWithin k pid fuel s'
          | .error reason =>
              if reason = Errno.interrupted then waitWithin k pid fuel s'
              else some (.error (.wait reason), s')

/-- Waits until a child has ended. -/
def waitFor (k : Kernel σ) (pid : Pid) (s : σ) : Option (Except ProcessFailure Termination × σ) :=
  waitWithin k pid (k.backlog s + 1) s

/-- Asks once whether a child has ended. -/
def pollFor (k : Kernel σ) (pid : Pid) (s : σ) :
    Except ProcessFailure (Option Termination) × σ :=
  match k.poll (.only pid) s with
  | (answer, s') =>
      match answer.termination with
      | .ok status => (.ok status, s')
      | .error reason =>
          if reason = Errno.interrupted then (.ok none, s') else (.error (.wait reason), s')

/-- What became of a program that was started.  `finished` is there when a background program had ended
by the time it was first asked after. -/
inductive Launch where
  | foreground (pid : Pid) (status : Termination)
  | background (pid : Pid) (finished : Option Termination)
deriving Repr, DecidableEq

/-- Whether a command runs in the background. -/
def runsInBackground (c : Command) (foregroundOnly : Bool) : Bool :=
  c.background && !foregroundOnly

/-- Starts a program and, in the foreground, waits for it. -/
def launch (k : Kernel σ) (c : Command) (foregroundOnly : Bool) (s : σ) :
    Option (Except ProcessFailure Launch × σ) :=
  let background := runsInBackground c foregroundOnly
  match LaunchPlan.ofCommand c background with
  | .error e => some (.error e, s)
  | .ok plan =>
      match k.fork plan s with
      | (.error reason, s') => some (.error (.fork reason), s')
      | (.ok pid, s') =>
          if background then
            match pollFor k pid s' with
            | (.ok finished, s'') => some (.ok (.background pid finished), s'')
            | (.error e, s'') => some (.error e, s'')
          else
            match waitFor k pid s' with
            | none => none
            | some (.ok status, s'') => some (.ok (.foreground pid status), s'')
            | some (.error e, s'') => some (.error e, s'')

end JobShell
