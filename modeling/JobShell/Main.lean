/-
Module: JobShell.Main
Purpose: The shell as a program.  Its standard input is read to the end, the shell runs on a machine of
  its own, and what was written there is passed on.
Main exports: main
-/
import JobShell.Invocation
import JobShell.Machine.Boot

namespace JobShell

/-- The variables that the shell looks at. -/
def knownVariables : List String :=
  ["HOME", "PATH", "TERM", "SMALLSH_LOG", "NO_COLOR", "CLICOLOR", "CLICOLOR_FORCE", "COLORTERM",
    "TERM_PROGRAM"]

/-- Reads a stream to its end. -/
partial def readToEnd (stream : IO.FS.Stream) (soFar : ByteArray) : IO ByteArray := do
  let block ← stream.read 65536
  if block.isEmpty then return soFar
  readToEnd stream (soFar ++ block)

end JobShell

open JobShell in
/-- Runs the shell on its arguments. -/
def main (arguments : List String) : IO UInt32 := do
  let input ← readToEnd (← IO.getStdin) ByteArray.empty
  let mut environment : Environment := []
  for name in knownVariables do
    if let some value ← IO.getEnv name then
      environment := environment.set name (Text.Utf8.encode value)
  let machine :=
    Machine.boot
      { environment := environment, mask := Machine.usualMask, input := some input.toList }
  let invocation : Invocation := { arguments := arguments, environment := environment }
  match invocation.run Machine.kernel Machine.firstNumber machine with
  | none => return 2
  | some (code, ended) =>
      (← IO.getStdout).write ⟨(ended.captured .out).toArray⟩
      (← IO.getStderr).write ⟨(ended.captured .err).toArray⟩
      return if ended.isGone then 128 else code.toUInt32
