/-
Module: JobShell.Machine.Setup
Purpose: What a child of the shell does before it becomes a program: its signals, its redirections in
  order, then the program.  The first thing that fails is said on a stream that is still at hand, and
  the child ends with one.
Main exports: redirect, redirectAll, Task.prepared, setUp
-/
import JobShell.Machine.Exec
import JobShell.Machine.Task

namespace JobShell.Machine

/-- The descriptor of a standard stream that a line can redirect. -/
def descriptorOf : Direction → Nat
  | .input => 0
  | .output => 1

/-- How the file of a redirection is opened. -/
def openModeOf : Direction → OpenMode
  | .input => OpenMode.reading
  | .output => OpenMode.writing 0o644

/-- What is said when the file of a redirection cannot be opened. -/
def openFailure (r : Redirection) : String :=
  match r.direction with
  | .input => "cannot open " ++ r.path ++ " for input\n"
  | .output => "cannot open " ++ r.path ++ " for output\n"

/-- Opens the file of a redirection on the lowest free descriptor, makes the stream refer to it, and
closes the descriptor again if it is another one. -/
def redirect (t : Task) (r : Redirection) : Except Errno Task :=
  match t.openPath (bytesOfText r.path) (openModeOf r.direction) with
  | .error e => .error e
  | .ok (file, t') =>
      let target := descriptorOf r.direction
      match t'.process.descriptors.allocate file with
      | (number, descriptors) =>
          let moved := descriptors.duplicate number target
          .ok (t'.setDescriptors (if number = target then moved else moved.close number))

/-- Carries out redirections until one fails; then says so on the standard output as it is. -/
def redirectAll (t : Task) : List Redirection → Except Task Task
  | [] => .ok t
  | r :: rest =>
      match redirect t r with
      | .ok t' => redirectAll t' rest
      | .error _ => .error (t.out (bytesOfText (openFailure r)))

/-- What is said when the program cannot be run. -/
def execFailure (program : String) (reason : Errno) : String :=
  program ++ ": " ++ reason.brief ++ "\n"

/-- A task whose process has prepared its signals for a program. -/
def Task.prepared (t : Task) (foreground : Bool) : Task :=
  { t with
    process := { t.process with dispositions := t.process.dispositions.prepareChild foreground } }

/-- The task after a plan has been carried out: the process has become the program, or has ended with
one. -/
def setUp (t : Task) (plan : LaunchPlan) : Task :=
  match redirectAll (t.prepared plan.foreground) plan.redirections with
  | .error said => said.exit 1
  | .ok ready =>
      match searchExec ready.disk.tree ready.process (plan.argv.map bytesOfText) with
      | .ok p => { ready with process := p }
      | .error reason =>
          (ready.err (bytesOfText (execFailure (plan.argv.headD "") reason))).exit 1

end JobShell.Machine
