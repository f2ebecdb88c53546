/-
Module: JobShell.Builtin
Purpose: The commands that the shell runs itself, chosen by exact name.
Main exports: Flow, Builtin, Builtin.ofName, Shell, Shell.changeDirectory, Shell.runBuiltin
-/
import JobShell.Failure
import JobShell.Kernel
import JobShell.State

namespace JobShell

/-- What the loop does after a line. -/
inductive Flow where
  | proceed
  | exit
deriving Repr, Inhabited, DecidableEq

/-- The commands that the shell runs itself. -/
inductive Builtin where
  | cd
  | status
  | exit
deriving Repr, DecidableEq

/-- The builtin of a name. -/
def Builtin.ofName : String → Option Builtin
  | "cd" => some .cd
  | "status" => some .status
  | "exit" => some .exit
  | _ => none

/-- A shell: its memory, how many mode toggles it has reported, and the system under it. -/
structure Shell (σ : Type) where
  state : ShellState
  reported : UInt64 := 0
  system : σ

/-- The mark in an argument of `cd` that stands for the home directory. -/
def homeMark : Char := '~'

/-- The byte between the names of a path. -/
def pathMark : UInt8 := 47

/-- Continues a path by another one, which takes its place if it starts at the root. -/
def joinPath (base next : Text.Bytes) : Text.Bytes :=
  if next.head? = some pathMark then next
  else
    match base.getLast? with
    | none => next
    | some last => if last = pathMark then base ++ next else base ++ pathMark :: next

namespace Shell

variable {σ : Type}

/-- The home directory: what the environment names, else the account's. -/
def home (k : Kernel σ) (s : σ) : Option Text.Bytes :=
  match k.homeVariable s with
  | some home => if home.isEmpty then k.accountHome s else some home
  | none => k.accountHome s

/-- Where `cd` leads: to its first argument, or home if there is none or it holds the home mark. -/
def directoryTarget (arguments : List String) (home : Option Text.Bytes) :
    Except DirectoryFailure Text.Bytes :=
  match arguments with
  | first :: _ =>
      if first.toList.contains homeMark then home.elim (.error .homeNotFound) .ok
      else .ok (Text.Utf8.encode first)
  | [] => home.elim (.error .homeNotFound) .ok

/-- Enters a directory; a name that holds a zero cannot be handed to the system. -/
def enter (k : Kernel σ) (target : Text.Bytes) (s : σ) : Except IoCause Unit × σ :=
  if target.contains 0 then
    (.error (.custom "file name contained an unexpected NUL byte"), s)
  else
    match k.changeDirectory target s with
    | (.ok (), s') => (.ok (), s')
    | (.error reason, s') => (.error (.system reason), s')

/-- Changes the working directory and remembers the system's name for the new one, or, where it has
none, the old name continued by the target. -/
def changeDirectory (k : Kernel σ) (arguments : List String) (sh : Shell σ) :
    Except DirectoryFailure Flow × Shell σ :=
  match directoryTarget arguments (home k sh.system) with
  | .error e => (.error e, sh)
  | .ok target =>
      match enter k target sh.system with
      | (.error cause, s) => (.error (.refused target cause), { sh with system := s })
      | (.ok (), s) =>
          let directory := (k.workingDirectory s).getD (joinPath sh.state.directory target)
          (.ok .proceed, { sh with state := sh.state.setDirectory directory, system := s })

/-- Runs a builtin on the arguments after its name. -/
def runBuiltin (k : Kernel σ) (builtin : Builtin) (arguments : List String) (sh : Shell σ) :
    Except DirectoryFailure Flow × Shell σ :=
  match builtin with
  | .cd => changeDirectory k arguments sh
  | .status =>
      (.ok .proceed,
        { sh with system := k.write .out (sh.state.lastStatus.describe ++ "\n") sh.system })
  | .exit => (.ok .exit, sh)

end Shell

end JobShell
