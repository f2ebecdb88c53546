/-
Module: JobShell.Machine.Task
Purpose: A process at work on the disk: reading, writing and opening through its descriptors.
Main exports: Task, Task.out, Task.err, Task.print, Task.flush, Task.readAll, Task.openPath,
  Task.directoryName
-/
import JobShell.Machine.Manual
import JobShell.Machine.Process

namespace JobShell.Machine

open Text (Bytes)

/-- A process at work, with what it can ask about other processes.  What a program prints is held back
until it is flushed; `spoiled` tells that a flush has failed.  `stalled` names the pipe on which the
process has to wait before it can go on: then nothing of what it has done since counts. -/
structure Task where
  disk : Disk
  process : Process
  statusOf : Nat → Option String := fun _ => none
  /-- Whether a living process can still write into a pipe. -/
  isFed : NodeId → Bool := fun _ => false
  /-- Whether a living process can still read a pipe. -/
  isRead : NodeId → Bool := fun _ => true
  /-- What each program says about itself. -/
  manuals : Program → Manual := fun _ => {}
  held : List Bytes := []
  spoiled : Bool := false
  stalled : Option NodeId := none

namespace Task

/-- The node behind a descriptor. -/
def nodeBehind (t : Task) (descriptor : Nat) : Option NodeId :=
  ((t.process.descriptors.file? descriptor).bind t.disk.file?).map (·.node)

/-- Whether a node is a pipe that has lost its readers. -/
def isBroken (t : Task) (id : NodeId) : Bool :=
  (t.disk.tree.node? id).any (·.isPipe) && !t.isRead id

/-- Writes to a descriptor. -/
def write (t : Task) (descriptor : Nat) (bytes : Bytes) : Except Errno Unit × Task :=
  match t.process.descriptors.file? descriptor with
  | none => (.error Errno.badDescriptor, t)
  | some id =>
      if bytes.isEmpty then (.ok (), t)
      else if (t.nodeBehind descriptor).any t.isBroken then (.error Errno.brokenPipe, t)
      else
        match t.disk.write id bytes with
        | (result, disk) => (result, { t with disk := disk })

/-- Writes to a descriptor as well as possible. -/
def put (t : Task) (descriptor : Nat) (bytes : Bytes) : Task :=
  (t.write descriptor bytes).2

/-- Writes to the standard output. -/
def out (t : Task) (bytes : Bytes) : Task :=
  t.put 1 bytes

/-- Writes to the standard error. -/
def err (t : Task) (bytes : Bytes) : Task :=
  t.put 2 bytes

/-- Holds something back for the standard output. -/
def print (t : Task) (bytes : Bytes) : Task :=
  { t with held := bytes :: t.held }

/-- Writes what has been held back. -/
def flush (t : Task) : Except Errno Unit × Task :=
  match ({ t with held := [] } : Task).write 1 t.held.reverse.flatten with
  | (.ok (), t') => (.ok (), t')
  | (.error reason, t') =>
      if t.held.all (·.isEmpty) then (.ok (), t') else (.error reason, { t' with spoiled := true })

/-- Marks a task that has come to a pipe which holds too little as yet.  Nothing is lost by it, for what
the task has done is done again later. -/
def awaitFeed (t : Task) (id : NodeId) : Task :=
  if (t.disk.tree.node? id).any (·.isPipe) && t.isFed id && t.stalled.isNone then
    { t with stalled := some id }
  else t

/-- Reads an open file to its end, which a pipe comes to once nobody can write into it any more. -/
def readOpen (t : Task) (file : FileId) : Except Errno Bytes × Task :=
  let waiting := ((t.disk.file? file).map (·.node)).elim t t.awaitFeed
  match waiting.disk.readAll file with
  | (result, disk) => (result, { waiting with disk := disk })

/-- Reads a descriptor to its end. -/
def readAll (t : Task) (descriptor : Nat) : Except Errno Bytes × Task :=
  match t.process.descriptors.file? descriptor with
  | none => (.error Errno.badDescriptor, t)
  | some file => t.readOpen file

/-- Reads at most so many bytes from a descriptor. -/
def readSome (t : Task) (descriptor limit : Nat) : Except Errno Bytes × Task :=
  match t.process.descriptors.file? descriptor with
  | none => (.error Errno.badDescriptor, t)
  | some id =>
      match t.disk.read id limit with
      | (result, disk) => (result, { t with disk := disk })

/-- The process number in a path to the status of a process. -/
def statusNumber? (path : Bytes) : Option Nat :=
  match FileTree.steps path with
  | [top, number, file] =>
      if FileTree.isAbsolute path && top = bytesOfText "proc" && file = bytesOfText "status" &&
          !number.isEmpty && number.all (fun b => 48 ≤ b && b ≤ 57) then
        some (number.foldl (fun n b => n * 10 + (b.toNat - 48)) 0)
      else none
  | _ => none

/-- The number that digits write. -/
def digitsNumber? (digits : Bytes) : Option Nat :=
  if digits.isEmpty || !digits.all (fun b => 48 ≤ b && b ≤ 57) then none
  else some (digits.foldl (fun n b => n * 10 + (b.toNat - 48)) 0)

/-- The descriptor that a path under the devices or the processes stands for. -/
def descriptorNumber? (path : Bytes) : Option Nat :=
  if !FileTree.isAbsolute path then none
  else
    match (FileTree.pieces path).filter fun piece => !piece.isEmpty && piece != [FileTree.dot] with
    | [top, name] =>
        if top != bytesOfText "dev" then none
        else
          ["stdin", "stdout", "stderr"].findIdx? fun known => bytesOfText known == name
    | [top, middle, number] =>
        if top == bytesOfText "dev" && middle == bytesOfText "fd" then digitsNumber? number else none
    | [top, self, middle, number] =>
        if top == bytesOfText "proc" && self == bytesOfText "self" && middle == bytesOfText "fd" then
          digitsNumber? number
        else none
    | _ => none

/-- Opens the node behind a descriptor anew. -/
def openDescriptor (t : Task) (descriptor : Nat) (how : OpenMode) : Except Errno (FileId × Task) :=
  match t.nodeBehind descriptor with
  | none => .error Errno.noEntry
  | some id =>
      match t.disk.openNode id how with
      | .error e => .error e
      | .ok (file, disk) => .ok (file, { t with disk := disk })

/-- Opens what the system makes up about a process when it is asked. -/
def openStatus (t : Task) (number : Nat) (how : OpenMode) : Except Errno (FileId × Task) :=
  if how.write then .error Errno.denied
  else
    match t.statusOf number with
    | none => .error Errno.noEntry
    | some text =>
        match t.disk.tree.add { content := .file (bytesOfText text), mode := 0o444 } with
        | (id, tree) =>
            match ({ t.disk with tree := tree } : Disk).addFile { node := id, readable := true } with
            | (file, disk) => .ok (file, { t with disk := disk })

/-- Opens a path. -/
def openPath (t : Task) (path : Bytes) (how : OpenMode) : Except Errno (FileId × Task) :=
  match statusNumber? path, descriptorNumber? path with
  | some number, _ => t.openStatus number how
  | none, some descriptor => t.openDescriptor descriptor how
  | none, none =>
      match t.disk.openPath t.process.directory t.process.mask path how with
      | .error e => .error e
      | .ok (file, disk) => .ok (file, { t with disk := disk })

/-- Reads a file by its path. -/
def readPath (t : Task) (path : Bytes) : Except Errno Bytes × Task :=
  match t.openPath path OpenMode.reading with
  | .error e => (.error e, t)
  | .ok (file, t') => t'.readOpen file

/-- The node of a path, links followed. -/
def resolve (t : Task) (path : Bytes) : Except Errno NodeId :=
  match statusNumber? path, descriptorNumber? path with
  | some number, _ => if (t.statusOf number).isSome then .ok FileTree.root else .error Errno.noEntry
  | none, some descriptor =>
      match t.nodeBehind descriptor with
      | some id => .ok id
      | none => .error Errno.noEntry
  | none, none => t.disk.tree.resolve t.process.directory path

/-- The node of a path from a directory, a link at its end not followed. -/
def lookFrom (t : Task) (directory : NodeId) (path : Bytes) : Except Errno NodeId :=
  match t.disk.tree.locate directory path false with
  | .error e => .error e
  | .ok location =>
      match location.node? with
      | some id => .ok id
      | none => .error Errno.noEntry

/-- The node of a path, a link at its end not followed. -/
def lookAt (t : Task) (path : Bytes) : Except Errno NodeId :=
  t.lookFrom t.process.directory path

/-- The node of a number. -/
def node? (t : Task) (id : NodeId) : Option Node :=
  t.disk.tree.node? id

/-- Whether a path leads to a directory, links followed. -/
def isDirectoryAt (t : Task) (path : Bytes) : Bool :=
  match t.resolve path with
  | .ok id => t.disk.tree.isDirectory id
  | .error _ => false

/-- The absolute path of the working directory. -/
def directoryName (t : Task) : Option Bytes :=
  t.disk.tree.nameOf t.process.directory

/-- Takes a line from a descriptor, with its end if it has one; nothing where nothing can be read. -/
def readLine (t : Task) (descriptor : Nat) : Bytes × Task :=
  match (t.process.descriptors.file? descriptor).bind fun id => (t.disk.file? id).map fun f => (id, f) with
  | none => ([], t)
  | some (id, file) =>
      if !file.readable then ([], t)
      else
        let held := t.disk.remaining file
        let line := held.takeWhile (· != 10)
        let taken := if line.length < held.length then line ++ [10] else line
        let waiting := if line.length < held.length then t else t.awaitFeed file.node
        (taken, { waiting with disk := waiting.disk.advance id taken.length })

/-- Changes the tree, or tells why not. -/
def change (t : Task) (f : FileTree → Except Errno FileTree) : Except Errno Task :=
  match f t.disk.tree with
  | .error e => .error e
  | .ok tree => .ok { t with disk := { t.disk with tree := tree } }

/-- Ends the process with a status. -/
def exit (t : Task) (status : Nat) : Task :=
  { t with process := { t.process with ended := some (WaitWord.ofExit status) } }

/-- Closes and reassigns descriptors. -/
def setDescriptors (t : Task) (descriptors : Descriptors) : Task :=
  { t with process := { t.process with descriptors := descriptors } }

end Task

end JobShell.Machine
