/-
Module: JobShell.Failure
Purpose: Everything that can go wrong in the shell, each cause with its message.
Main exports: IoCause, ReadFailure, DirectoryFailure, ProcessFailure, Failure, Failure.message,
  Failure.isFatal
-/
import JobShell.Command
import JobShell.Errno
import JobShell.Text.Quoted
import JobShell.Text.Utf8

namespace JobShell

/-- Why a file operation failed: the system refused it, or it was refused before it was tried. -/
inductive IoCause where
  | system (reason : Errno)
  | custom (text : String)
deriving Repr, DecidableEq

/-- The words for a failed file operation. -/
def IoCause.message : IoCause → String
  | system reason => reason.report
  | custom text => text

/-- Why no line could be read. -/
inductive ReadFailure where
  | endOfInput
  | interrupted
  | io (cause : IoCause)
deriving Repr, DecidableEq

/-- The words for a failed reading. -/
def ReadFailure.message : ReadFailure → String
  | endOfInput => "EOF"
  | interrupted => "Interrupted"
  | io cause => cause.message

/-- Why the working directory was not changed. -/
inductive DirectoryFailure where
  | homeNotFound
  | refused (target : Text.Bytes) (cause : IoCause)
deriving Repr, DecidableEq

/-- The words for a directory that was not changed.  Its name need not be text. -/
def DirectoryFailure.message : DirectoryFailure → String
  | homeNotFound => "cd: home directory not found"
  | refused target cause => "cd: " ++ Text.Utf8.decodeLossy target ++ ": " ++ cause.message

/-- Why a program was not started, or its end is not known. -/
inductive ProcessFailure where
  | fork (reason : Errno)
  | wait (reason : Errno)
  | nulInArgument (text : String)
  | nothingToRun
  | signalSetup (text : String)
deriving Repr, DecidableEq

/-- The words for a failure of process control. -/
def ProcessFailure.message : ProcessFailure → String
  | fork reason => "fork failed: " ++ reason.brief
  | wait reason => "wait failed: " ++ reason.brief
  | nulInArgument text => "argument contains a NUL byte: " ++ Text.quoted text
  | nothingToRun => "nothing to run"
  | signalSetup text => "signal setup failed: " ++ text

/-- A failure of the shell. -/
inductive Failure where
  | reading (cause : ReadFailure)
  | io (cause : IoCause)
  | syntactic (cause : ParseError)
  | directory (cause : DirectoryFailure)
  | process (cause : ProcessFailure)
  | options (text : String)
  | diagnostics (text : String)
deriving Repr, DecidableEq

namespace Failure

/-- The message of a failure. -/
def message : Failure → String
  | reading cause => "Readline error: " ++ cause.message
  | io cause => "IO error: " ++ cause.message
  | syntactic cause => cause.message
  | directory cause => cause.message
  | process cause => cause.message
  | options text => "Flag error: " ++ text
  | diagnostics text => "Logging error: " ++ text

/-- Whether the shell has to stop: only when it can make no more processes. -/
def isFatal : Failure → Bool
  | process (.fork _) => true
  | _ => false

end Failure

end JobShell
