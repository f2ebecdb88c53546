/-
Module: JobShell.Machine.Boot
Purpose: A machine with its system directories, its programs, a scratch directory with files of the
  caller's, and the shell about to run in it.
Main exports: ScratchEntry, Machine.scratchPath, Machine.boot, Machine.captured
-/
import JobShell.Machine.System

namespace JobShell

namespace Machine

open Text (Bytes)

/-- Something to be put into the scratch directory.  Without permission bits it gets the usual ones. -/
inductive ScratchEntry where
  | file (bytes : Bytes) (mode : Option Nat)
  | directory (mode : Option Nat)
  | link (target : Bytes)
deriving Repr, Inhabited

/-- The permission bits of directories. -/
def usualDirectoryMode : Nat := 0o755

/-- The node of an entry in a directory. -/
def ScratchEntry.node (entry : ScratchEntry) (directory : NodeId) (fileMode directoryMode : Nat) :
    Node :=
  match entry with
  | file bytes mode => { content := .file bytes, mode := mode.getD fileMode }
  | .directory mode => { content := .directory [] directory, mode := mode.getD directoryMode }
  | link target => { content := .link target, mode := 0o777 }

/-- Sets the content and the bits of a node; a directory that is put over a directory keeps its
entries. -/
def overwriteNode (old new : Node) : Node :=
  match old.content, new.content with
  | .directory entries parent, .directory _ _ =>
      { new with content := .directory entries parent }
  | _, _ => new

/-- Puts a node under a path of names below a directory; missing directories on the way are made. -/
def install (own : Bool) (directoryMode : Nat) (make : NodeId → Node) :
    FileTree → NodeId → List Bytes → FileTree
  | t, _, [] => t
  | t, here, [name] =>
      match (t.entries here).lookup name with
      | some id => t.modify id fun old => overwriteNode old (make here)
      | none =>
          match t.add (make here) with
          | (id, t') => t'.link here name id
  | t, here, name :: rest =>
      match (t.entries here).lookup name with
      | some id => install own directoryMode make t id rest
      | none =>
          match t.add { content := .directory [] here, mode := directoryMode, own := own } with
          | (id, t') => install own directoryMode make (t'.link here name id) id rest

/-- Puts a node of the system under an absolute path. -/
def installSystem (t : FileTree) (path : String) (make : NodeId → Node) : FileTree :=
  install false usualDirectoryMode (fun here => { make here with own := false }) t FileTree.root
    ((FileTree.pieces (bytesOfText path)).filter (!·.isEmpty))

/-- A directory of the system. -/
def systemDirectory (mode : Nat) (here : NodeId) : Node :=
  { content := .directory [] here, mode := mode }

/-- The directories of the system, with their permission bits. -/
def systemDirectories : List (String × Nat) :=
  [("/boot", 0o755), ("/dev", 0o755), ("/etc", 0o755), ("/home", 0o755), ("/media", 0o755),
    ("/mnt", 0o755), ("/opt", 0o755), ("/proc", 0o555), ("/root", 0o700), ("/run", 0o755),
    ("/srv", 0o755), ("/sys", 0o555), ("/tmp", 0o1777), ("/usr/bin", 0o755), ("/usr/include", 0o755),
    ("/usr/lib", 0o755), ("/usr/lib64", 0o755), ("/usr/local/bin", 0o755), ("/usr/sbin", 0o755),
    ("/usr/share", 0o755), ("/usr/src", 0o755), ("/var/cache", 0o755), ("/var/lib", 0o755),
    ("/var/log", 0o755), ("/var/tmp", 0o1777)]

/-- The links of the system. -/
def systemLinks : List (String × String) :=
  [("/bin", "usr/bin"), ("/lib", "usr/lib"), ("/lib64", "usr/lib64"), ("/sbin", "usr/sbin"),
    ("/dev/fd", "/proc/self/fd"), ("/dev/stdin", "/proc/self/fd/0"),
    ("/dev/stdout", "/proc/self/fd/1"), ("/dev/stderr", "/proc/self/fd/2")]

/-- The devices of the system. -/
def systemDevices : List (String × Device) :=
  [("/dev/null", .null), ("/dev/zero", .zero), ("/dev/full", .full), ("/dev/tty", .terminal)]

/-- The tree of a machine before it is used. -/
def systemTree : FileTree :=
  let empty : FileTree :=
    { nodes := #[{ content := .directory [] FileTree.root, mode := 0o755, own := false }] }
  let withDirectories := systemDirectories.foldl
    (fun t entry => installSystem t entry.1 (systemDirectory entry.2)) empty
  let withLinks := systemLinks.foldl
    (fun t entry => installSystem t entry.1 fun _ =>
      { content := .link (bytesOfText entry.2), mode := 0o777 }) withDirectories
  let withDevices := systemDevices.foldl
    (fun t entry => installSystem t entry.1 fun _ =>
      { content := .device entry.2, mode := 0o666 }) withLinks
  Program.all.foldl
    (fun t program => installSystem t ("/usr/bin/" ++ program.name) fun _ =>
      { content := .program program, mode := 0o755 }) withDevices

/-- The home directory of the account. -/
def accountPath : String := "/home/operator"

/-- The scratch directory, in which the shell starts. -/
def scratchPath : String := "/tmp/scratch/w"

/-- The names from the root to a path. -/
def namesOf (path : String) : List Bytes :=
  (FileTree.pieces (bytesOfText path)).filter (!·.isEmpty)

/-- The node of an absolute path, or the root. -/
def nodeAt (t : FileTree) (path : String) : NodeId :=
  match t.resolve FileTree.root (bytesOfText path) with
  | .ok id => id
  | .error _ => FileTree.root

/-- The tree with the account's directories. -/
def accountTree : FileTree :=
  [accountPath, scratchPath].foldl (fun t path =>
    install true usualDirectoryMode
      (fun here => { content := .directory [] here, mode := usualDirectoryMode }) t FileTree.root
      (namesOf path)) systemTree

/-- Puts an entry under a path below the scratch directory. -/
def putEntry (t : FileTree) (path : Bytes) (entry : ScratchEntry) (mask : Nat) : FileTree :=
  install true (maskMode 0o777 mask)
    (fun here => entry.node here (maskMode 0o666 mask) (maskMode 0o777 mask)) t
    (nodeAt t scratchPath) ((FileTree.pieces path).filter (!·.isEmpty))

/-- What a machine is started with. -/
structure BootPlan where
  environment : Environment
  mask : Nat
  input : Option Bytes := none
  entries : List (Bytes × ScratchEntry) := []
  /-- What each program says about itself. -/
  manuals : Program → Manual := fun _ => {}
deriving Inhabited

/-- The mask in force while entries are put into the scratch directory. -/
def usualMask : Nat := 0o022

/-- The tree as if everything in it had been made at one moment. -/
def FileTree.settled (t : FileTree) : FileTree :=
  { nodes := t.nodes.map fun n => { n with changed := FileTree.startingMoment } }

/-- The process number of the shell. -/
def firstNumber : Nat := 46350

/-- A machine on which the shell is about to run: its input is the given text or the null device, its
output and its diagnostics are kept in files of their own.  Broken pipes are ignored from the start. -/
def boot (plan : BootPlan) : Machine :=
  let tree :=
    (plan.entries.foldl (fun t entry => putEntry t entry.1 entry.2 usualMask) accountTree).settled
  let (out, tree) := tree.add { content := .file [], mode := 0o600 }
  let (err, tree) := tree.add { content := .file [], mode := 0o600 }
  let (input, tree) := match plan.input with
    | some bytes => tree.add { content := .file bytes, mode := 0o600 }
    | none => (nodeAt tree "/dev/null", tree)
  let files : Array OpenFile :=
    #[{ node := input, readable := true }, { node := out, writable := true, appending := true },
      { node := err, writable := true, appending := true }]
  let shell : Process :=
    { number := firstNumber
      parent := 1
      directory := nodeAt tree scratchPath
      descriptors := [some 0, some 1, some 2]
      mask := plan.mask
      environment := plan.environment
      dispositions := Dispositions.initial.set brokenPipe .ignore
      activity := .shell }
  { disk := { tree := tree, files := files }
    processes := [shell]
    nextNumber := firstNumber + 1
    shellNumber := firstNumber
    accountHome := some (bytesOfText accountPath)
    manuals := plan.manuals }

/-- What has been written on a stream of the shell so far. -/
def captured (m : Machine) (stream : Stream) : Bytes :=
  match (m.shell.descriptors.file? (streamDescriptor stream)).bind m.disk.file? with
  | some file => m.disk.remaining { file with position := 0 }
  | none => []

end Machine

end JobShell
