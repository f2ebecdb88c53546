/-
Module: JobShell.Machine.Script.Scene
Purpose: A script at work on the machine: what it says, how it starts other processes and learns of their
  end, and how its work is broken off.
Main exports: Demand, Scene, Scene.settle, Scene.complain, Scene.raise, Scene.carryOn, Scene.fork,
  Scene.reap
-/
import JobShell.Machine.Basic
import JobShell.Machine.Script.Scopes

namespace JobShell.Machine.Script

open Text (Bytes)

/-- What a script can ask of the machine around it: to add a process, or to take a child that has ended out
of the table. -/
inductive Demand where
  | make (p : Process)
  | collect (number : Nat)

/-- The machine after a demand.  The shell is nobody's child. -/
def Demand.meet (m : Machine) : Demand → Machine
  | make p => (m.spawn p).2
  | collect number => if number = m.shellNumber then m else m.remove number

/-- A script at work: the machine as it was when the script began its step, and what has been asked of it
since; its process on the disk, what it knows and what it still has to do, and the signals that it sends once
this is put back. -/
structure Scene where
  around : Machine
  demands : List Demand := []
  task : Task
  state : ScriptState
  stack : List Frame
  signals : List (Nat × Nat) := []

/-- How the work of a script is broken off: by a failure, by the command for it, or because there is nothing
left to do. -/
inductive Break where
  | failure
  | exit
  | done
deriving Repr, Inhabited, DecidableEq

/-- Why a file could not be opened, made or found. -/
def reasonFor (reason : Errno) (missing : String) : List Char :=
  (if reason = Errno.noEntry || reason = Errno.notDirectory then missing else reason.text).toList

/-- A text that is read as it is. -/
def textSource (text : List Char) : Source :=
  { pieces := text.map Piece.char }

namespace Scene

/-!
## Putting things together
-/

/-- The machine after what has been asked of it so far. -/
def machine (scene : Scene) : Machine :=
  scene.demands.foldl Demand.meet scene.around

/-- Asks something of the machine. -/
def ask (scene : Scene) (demand : Demand) : Scene :=
  { scene with demands := scene.demands ++ [demand] }

/-- Sends signals. -/
def send (m : Machine) (signals : List (Nat × Nat)) : Machine :=
  signals.foldl (fun m signal =>
    match m.deliver signal.1 signal.2 with
    | .ok m' => m'
    | .error _ => m) m

/-- Whether the process is still the script. -/
def isScript (scene : Scene) : Bool :=
  match scene.task.process.activity with
  | .script _ _ => true
  | _ => false

/-- The machine after a step of the script that is the process of a number on it. -/
def settle (scene : Scene) (m : Machine) (number : Nat) : Machine :=
  let process := scene.task.process
  let ready :=
    if scene.isScript then { process with activity := .script scene.state scene.stack } else process
  let asked := scene.demands.foldl Demand.meet m
  send (asked.conclude number { scene.task with process := ready }) scene.signals

/-- The files around the script. -/
def surroundings (scene : Scene) : Surroundings :=
  { tree := scene.task.disk.tree, here := scene.task.process.directory }

/-- Puts frames on the stack. -/
def push (scene : Scene) (frames : List Frame) : Scene :=
  { scene with stack := frames ++ scene.stack }

/-- Sets the status. -/
def withStatus (scene : Scene) (status : Nat) : Scene :=
  { scene with state := { scene.state with status := status } }

/-- Changes what the script knows. -/
def modifyState (scene : Scene) (f : ScriptState → ScriptState) : Scene :=
  { scene with state := f scene.state }

/-- Writes to the standard error. -/
def tell (scene : Scene) (text : List Char) : Scene :=
  { scene with task := scene.task.err (bytesOf text) }

/-- Complains. -/
def complain (scene : Scene) (text : List Char) : Scene :=
  scene.tell (scene.state.complaintStart ++ text ++ ['\n'])

/-!
## Breaking off
-/

/-- Puts back the descriptors that the innermost redirections have changed. -/
def putBack (scene : Scene) : Scene :=
  match scene.state.saved with
  | [] => scene
  | top :: rest =>
      let descriptors := top.foldl (fun (ds : Descriptors) old => ds.assign old.1 old.2)
        scene.task.process.descriptors
      { scene with
        task := scene.task.setDescriptors descriptors
        state := { scene.state with saved := rest } }

/-- Ends the process. -/
def quit (scene : Scene) (status : Nat) : Scene :=
  { scene with task := scene.task.exit status }

/-- Ends the script, after the commands that a trap holds for the end. -/
def leave (scene : Scene) (how : Break) : Scene :=
  let s := scene.state
  let status := if how = .exit then s.trapStatus.getD s.status else s.status
  let calm :=
    { s with
      status := status
      trapStatus := none
      skip := .nothing
      loops := 0
      tracing := false }
  match s.traps.lookup 0 with
  | some text =>
      { scene with
        state :=
          { calm with
            traps := s.traps.filter fun trap => trap.1 != 0
            trapStatus := some status }
        stack := [.source (textSource text) .nothing false {} (some 0), .leaving status] }
  | none => { scene with state := calm, stack := [] }.quit status

/-- Whether a frame puts an end to a failure. -/
def isCatcher : Frame → Bool
  | .finished _ catches => catches
  | .redirect _ _ _ => true
  | _ => false

/-- Drops frames until one puts an end to it.  What the frames would have put back is put back, but variables
only if the script goes on. -/
def unwind (how : Break) (caught : Bool) : List Frame → Scene → Scene
  | [], scene => scene.leave how
  | frame :: rest, scene =>
      match frame with
      | .restore _ => unwind how caught rest scene.putBack
      | .unscope =>
          unwind how caught rest (if caught then scene.modifyState (·.closeScope) else scene)
      | .returned positional loops =>
          unwind how caught rest <| scene.modifyState fun s =>
            { s with positional := positional, loops := loops }
      | .finished speaker catches =>
          let back := scene.modifyState fun s => { s with speaker := speaker }
          if how = .failure && catches then { back with stack := rest }
          else unwind how caught rest back
      | .redirect _ _ failure =>
          if how = .failure then { scene with stack := failure ++ rest }
          else unwind how caught rest scene
      | .leaving status =>
          scene.quit (if how = .exit then scene.state.trapStatus.getD status else scene.state.status)
      | _ => unwind how caught rest scene

/-- Breaks off the work at hand. -/
def raise (scene : Scene) (how : Break) : Scene :=
  unwind how (how = .failure && scene.stack.any isCatcher) scene.stack { scene with stack := [] }

/-- Fails with a complaint. -/
def fail (scene : Scene) (text : List Char) : Scene :=
  ((scene.complain text).withStatus 2).raise .failure

/-!
## Other processes
-/

/-- What a script knows that has split off from another one: it has no traps with commands, and no jobs. -/
def inChild (s : ScriptState) : ScriptState :=
  { s with traps := s.traps.filter (·.2.isEmpty), jobs := [], saved := [] }

/-- A process like that of the script, which goes on with frames of its own. -/
def offspring (scene : Scene) (stack : List Frame) : Process :=
  let p := scene.task.process
  { p with
    parent := p.number
    pending := []
    held := []
    dispositions := p.dispositions.afterExec
    activity := .script (inChild scene.state) stack }

/-- Adds a process. -/
def fork (scene : Scene) (p : Process) : Nat × Scene :=
  (scene.machine.nextNumber, scene.ask (.make p))

/-- Begins a job of processes; gives its number too. -/
def startJob (scene : Scene) (numbers : List Nat) : Nat × Scene :=
  match scene.state.jobs.start (numbers.map fun number => { number := number }) with
  | (place, jobs) => (place, scene.modifyState fun s => { s with jobs := jobs })

/-- What is said when a process of a job that is waited for has ended. -/
def tellEnd (scene : Scene) (word : Int) : Scene :=
  match spokenSignal? word with
  | some signal => scene.tell ((describeSignal signal).toList ++ ['\n'])
  | none => scene

/-- Takes note of a child that has ended; if it belongs to the job that is waited for, a signal that killed
it is spoken of. -/
def collect (place : Option Nat) (scene : Scene) (child : Process) : Scene :=
  let word := child.ended.getD 0
  let awaited :=
    (place.bind scene.state.jobs.find?).any fun job => job.isRunning && job.holds child.number
  let noted :=
    { scene.ask (.collect child.number) with
      state := { scene.state with jobs := scene.state.jobs.noteEnd child.number word } }
  if awaited then noted.tellEnd word else noted

/-- The children that have ended and wait to be noticed. -/
def endedChildren (m : Machine) (number : Nat) : List Process :=
  (m.children number).filter (·.ended.isSome)

/-- Takes note of all children that have ended. -/
def reap (scene : Scene) (place : Option Nat) : Scene :=
  (endedChildren scene.machine scene.task.process.number).foldl (collect place) scene

/-- Makes a pipe; gives the open files at its ends, the one to read from first. -/
def makePipe (t : Task) : FileId × FileId × Task :=
  let (node, tree) := t.disk.tree.add { content := .pipe [], mode := 0o600 }
  let (input, disk) :=
    ({ t.disk with tree := tree } : Disk).addFile { node := node, readable := true }
  let (output, disk) := disk.addFile { node := node, writable := true }
  (input, output, { t with disk := disk })

/-!
## Work that needs the output of commands
-/

/-- Starts a command whose output is needed. -/
def substitute (scene : Scene) (body : Option Statement)
    (resume : Surroundings → ScriptState → List Char → Progress (List Frame)) : Scene :=
  match makePipe scene.task with
  | (input, output, task) =>
      let there := { scene with task := task }
      let child := there.offspring [.run body { final := true }]
      let writing := { child with descriptors := child.descriptors.assign 1 (some output) }
      match there.fork writing with
      | (number, forked) =>
          match forked.startJob [number] with
          | (place, started) =>
              let (descriptor, descriptors) := task.process.descriptors.allocate input
              { started with
                task := started.task.setDescriptors descriptors
                stack := .gather descriptor place [] resume :: started.stack }

/-- The line that is being read. -/
def readingLine (scene : Scene) : Nat :=
  (scene.stack.findSome? fun frame =>
    match frame with
    | .source text _ _ _ _ => some text.line
    | _ => none).getD scene.state.line

/-- Fails because of a mistake of writing on a line. -/
def misread (scene : Scene) (line : Nat) (text : String) : Scene :=
  (scene.modifyState fun s => { s with line := line }).fail ("Syntax error: " ++ text).toList

/-- Goes on from what a piece of work has come to. -/
def carryOn (scene : Scene) : Progress (List Frame) → Scene
  | .done s frames => { scene with state := s, stack := frames ++ scene.stack }
  | .failed s trouble =>
      let there := { scene with state := s }
      match trouble with
      | .complaint text => there.fail text
      | .misread text => there.misread there.readingLine text
      | .crash signal =>
          { there with
            task :=
              { there.task with
                process := { there.task.process with ended := some (WaitWord.ofSignal signal) } } }
  | .asks s body resume => { scene with state := s }.substitute body resume

/-- Does a piece of work. -/
def work (scene : Scene) (f : Expanding (List Frame)) : Scene :=
  scene.carryOn (f scene.surroundings scene.state)

end Scene

end JobShell.Machine.Script
