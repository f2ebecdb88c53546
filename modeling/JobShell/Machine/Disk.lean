/-
Module: JobShell.Machine.Disk
Purpose: Open files over a tree of files, and the descriptors by which a process knows them.
  Processes that inherit a descriptor share the open file behind it, and with it the position.
Main exports: FileId, OpenFile, Disk, OpenMode, Disk.openPath, Disk.read, Disk.write, Descriptors
-/
import JobShell.Machine.FileTree

namespace JobShell.Machine

open Text (Bytes)

/-- The place of an open file in the table. -/
abbrev FileId := Nat

/-- An open file: its node, the position of the next byte, and what may be done with it. -/
structure OpenFile where
  node : NodeId
  position : Nat := 0
  readable : Bool := false
  writable : Bool := false
  appending : Bool := false
deriving Repr, Inhabited, DecidableEq

/-- The tree and the table of open files. -/
structure Disk where
  tree : FileTree
  files : Array OpenFile
deriving Repr, Inhabited

/-- How a file is opened. -/
structure OpenMode where
  read : Bool := false
  write : Bool := false
  append : Bool := false
  create : Bool := false
  truncate : Bool := false
  /-- The permission bits of a file that is created, before the mask is taken off. -/
  mode : Nat := 0
deriving Repr, Inhabited, DecidableEq

namespace OpenMode

/-- Opening to read. -/
def reading : OpenMode := { read := true }

/-- Opening to write from scratch, making the file if it is missing. -/
def writing (mode : Nat) : OpenMode :=
  { write := true, create := true, truncate := true, mode := mode }

/-- Opening to write at the end, making the file if it is missing. -/
def appending (mode : Nat) : OpenMode :=
  { write := true, append := true, create := true, mode := mode }

end OpenMode

/-- The bits that a mask leaves. -/
def maskMode (mode mask : Nat) : Nat :=
  mode &&& (0o7777 ^^^ (mask &&& 0o7777))

namespace Disk

/-- Adds an open file. -/
def addFile (d : Disk) (file : OpenFile) : FileId × Disk :=
  (d.files.size, { d with files := d.files.push file })

/-- An open file of the table. -/
def file? (d : Disk) (id : FileId) : Option OpenFile :=
  d.files[id]?

/-- Opens a node that exists. -/
def openNode (d : Disk) (id : NodeId) (how : OpenMode) : Except Errno (FileId × Disk) :=
  match d.tree.node? id with
  | none => .error Errno.noEntry
  | some node =>
      if how.write && node.isDirectory then .error Errno.isDirectory
      else if node.content matches .device .terminal then .error Errno.noDevice
      else if how.read && !node.allows .read then .error Errno.denied
      else if how.write && !node.allows .write then .error Errno.denied
      else
        let emptied :=
          if how.truncate && node.isFile then (d.tree.stamp id).modify id Node.emptied else d.tree
        let file : OpenFile :=
          { node := id, readable := how.read, writable := how.write, appending := how.append }
        .ok (({ d with tree := emptied } : Disk).addFile file)

/-- Why a path with a slash at its end cannot be opened so that a file is made if there is none. -/
def createFault (d : Disk) (here : NodeId) (path : Bytes) : Errno :=
  match d.tree.locate here (FileTree.dropTrailingSlashes path) false with
  | .error e => e
  | .ok _ => Errno.isDirectory

/-- Opens a path from a directory under a mask. -/
def openPath (d : Disk) (here : NodeId) (mask : Nat) (path : Bytes) (how : OpenMode) :
    Except Errno (FileId × Disk) :=
  if how.create && FileTree.hasTrailingSlash path then .error (d.createFault here path)
  else
    match d.tree.locate here path true with
    | .error e => .error e
    | .ok (.plain id) => if how.create then .error Errno.isDirectory else d.openNode id how
    | .ok (.entry _ _ (some id)) => d.openNode id how
    | .ok (.entry directory name none) =>
        if !how.create then .error Errno.noEntry
        else
          let node : Node := { content := .file [], mode := maskMode how.mode mask }
          match d.tree.create directory name node with
          | .error e => .error e
          | .ok (id, tree) =>
              .ok (({ d with tree := tree } : Disk).addFile
                { node := id
                  readable := how.read
                  writable := how.write
                  appending := how.append })

/-- What an open file is open on. -/
def contentOf (d : Disk) (file : OpenFile) : Option Content :=
  (d.tree.node? file.node).map (·.content)

/-- The bytes that a file holds from a position on, or that a pipe holds. -/
def remaining (d : Disk) (file : OpenFile) : Bytes :=
  match d.tree.node? file.node with
  | some { content := .file bytes, .. } => bytes.drop file.position
  | some { content := .pipe bytes, .. } => bytes
  | _ => []

/-- Moves the position of an open file forward; what is read from a pipe is gone. -/
def advance (d : Disk) (id : FileId) (count : Nat) : Disk :=
  let moved : Disk :=
    { d with files := d.files.modify id fun f => { f with position := f.position + count } }
  match d.file? id with
  | none => moved
  | some file =>
      match d.contentOf file with
      | some (.pipe bytes) =>
          { moved with
            tree := moved.tree.modify file.node fun n =>
              { n with content := .pipe (bytes.drop count) } }
      | _ => moved

/-- Reads at most so many bytes. -/
def read (d : Disk) (id : FileId) (limit : Nat) : Except Errno Bytes × Disk :=
  match d.file? id with
  | none => (.error Errno.badDescriptor, d)
  | some file =>
      if !file.readable then (.error Errno.badDescriptor, d)
      else
        match d.contentOf file with
        | some (.directory _ _) => (.error Errno.isDirectory, d)
        | some (.device .zero) | some (.device .full) => (.ok (List.replicate limit 0), d)
        | _ =>
            let block := (d.remaining file).take limit
            (.ok block, d.advance id block.length)

/-- Reads everything up to the end. -/
def readAll (d : Disk) (id : FileId) : Except Errno Bytes × Disk :=
  match d.file? id with
  | none => (.error Errno.badDescriptor, d)
  | some file => d.read id (d.remaining file).length

/-- Replaces the bytes of a text from a position on, with zeros up to it if the text is shorter. -/
def overwrite (old : Bytes) (position : Nat) (new : Bytes) : Bytes :=
  old.take position ++ List.replicate (position - old.length) 0 ++ new ++
    old.drop (position + new.length)

/-- Takes everything out of an open file that is an ordinary one. -/
def truncate (d : Disk) (id : FileId) : Disk :=
  match d.file? id with
  | none => d
  | some file =>
      { d with tree := (d.tree.stamp file.node).modify file.node Node.emptied }

/-- Writes bytes: at the end of a file opened for appending, at the position else. -/
def write (d : Disk) (id : FileId) (bytes : Bytes) : Except Errno Unit × Disk :=
  match d.file? id with
  | none => (.error Errno.badDescriptor, d)
  | some file =>
      if !file.writable then (.error Errno.badDescriptor, d)
      else
        match d.tree.node? file.node with
        | some { content := .file old, .. } =>
            let position := if file.appending then old.length else file.position
            let tree := (d.tree.stamp file.node).modify file.node fun n =>
              { n with content := .file (overwrite old position bytes) }
            let files := d.files.modify id fun f => { f with position := position + bytes.length }
            (.ok (), { tree := tree, files := files })
        | some { content := .pipe held, .. } =>
            let tree := d.tree.modify file.node fun n => { n with content := .pipe (held ++ bytes) }
            (.ok (), { d with tree := tree })
        | some { content := .device .full, .. } => (.error Errno.noSpace, d)
        | _ => (.ok (), d)

end Disk

/-!
## Descriptors
-/

/-- The descriptors of a process by number; `none` where one is closed. -/
abbrev Descriptors := List (Option FileId)

namespace Descriptors

/-- The open file behind a descriptor. -/
def file? (ds : Descriptors) (number : Nat) : Option FileId :=
  ds[number]?.join

/-- Makes a descriptor refer to an open file, or closes it. -/
def assign : Descriptors → Nat → Option FileId → Descriptors
  | [], 0, file => [file]
  | [], n + 1, file => none :: assign [] n file
  | _ :: rest, 0, file => file :: rest
  | d :: rest, n + 1, file => d :: assign rest n file

/-- The lowest number that is free. -/
def lowestFree : Descriptors → Nat
  | [] => 0
  | none :: _ => 0
  | some _ :: rest => lowestFree rest + 1

/-- Takes the lowest free number for an open file. -/
def allocate (ds : Descriptors) (file : FileId) : Nat × Descriptors :=
  (ds.lowestFree, ds.assign ds.lowestFree (some file))

/-- Closes a descriptor. -/
def close (ds : Descriptors) (number : Nat) : Descriptors :=
  ds.assign number none

/-- Makes `target` refer to what `source` refers to. -/
def duplicate (ds : Descriptors) (source target : Nat) : Descriptors :=
  if source = target then ds else ds.assign target (ds.file? source)

/-- A descriptor reads as assigned. -/
theorem file?_assign (ds : Descriptors) (number other : Nat) (file : Option FileId) :
    (ds.assign number file).file? other = if other = number then file else ds.file? other := by
  fun_induction assign ds number file generalizing other with
  | case1 file => cases other <;> simp [file?]
  | case2 n file ih => cases other <;> simp_all [file?]
  | case3 d rest file => cases other <;> simp [file?]
  | case4 d rest n file ih => cases other <;> simp_all [file?]

/-- A free number refers to nothing. -/
theorem file?_lowestFree (ds : Descriptors) : ds.file? ds.lowestFree = none := by
  fun_induction lowestFree ds with
  | case1 => rfl
  | case2 rest => rfl
  | case3 d rest ih => simpa [file?] using ih

end Descriptors

end JobShell.Machine
