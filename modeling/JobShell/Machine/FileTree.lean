/-
Module: JobShell.Machine.FileTree
Purpose: Files, directories and links, their permissions, and the meaning of a path.
  A node stays where it is in the table after it has been removed from its directory, so an open file
  and a working directory outlive their names.
Main exports: NodeId, Content, Node, FileTree, FileTree.locate, FileTree.resolve, FileTree.nameOf,
  FileTree.link, FileTree.unlink
-/
import JobShell.Errno
import JobShell.Machine.Program
import JobShell.Text.Utf8

namespace JobShell.Machine

open Text (Bytes)

/-- The place of a node in the table. -/
abbrev NodeId := Nat

/-- The devices of the machine: one that swallows everything and holds nothing, one that never runs out
of zeros, one that gives zeros but has no room left, and a terminal that nobody sits at. -/
inductive Device where
  | null
  | zero
  | full
  | terminal
deriving Repr, Inhabited, DecidableEq

/-- What a node is.  A pipe holds what has been written and not yet been read. -/
inductive Content where
  | file (bytes : Bytes)
  | directory (entries : List (Bytes × NodeId)) (parent : NodeId)
  | link (target : Bytes)
  | device (device : Device)
  | pipe (bytes : Bytes)
  | program (program : Program)
deriving Repr, Inhabited

/-- A node: its content, its permission bits, whether it belongs to the account of the shell, and when
its content was last changed, in nanoseconds. -/
structure Node where
  content : Content
  mode : Nat
  own : Bool := true
  changed : Int := 0
deriving Repr, Inhabited

/-- The three kinds of access. -/
inductive Access where
  | read
  | write
  | execute
deriving Repr, DecidableEq

/-- The weight of an access among the permission bits. -/
def Access.bit : Access → Nat
  | read => 4
  | write => 2
  | execute => 1

namespace Node

/-- Whether the permission bits allow an access: the owner's bits for the account's own nodes, the bits
for others else. -/
def allows (n : Node) (access : Access) : Bool :=
  let bits := if n.own then n.mode / 64 % 8 else n.mode % 8
  bits / access.bit % 2 == 1

/-- Whether a node is a directory. -/
def isDirectory (n : Node) : Bool :=
  match n.content with
  | .directory _ _ => true
  | _ => false

/-- Whether a node is an ordinary file. -/
def isFile (n : Node) : Bool :=
  match n.content with
  | .file _ | .program _ => true
  | _ => false

/-- Whether a node is a device that works by characters. -/
def isDevice (n : Node) : Bool :=
  match n.content with
  | .device _ => true
  | _ => false

/-- Whether a node is a pipe. -/
def isPipe (n : Node) : Bool :=
  match n.content with
  | .pipe _ => true
  | _ => false

/-- Whether a node is a link. -/
def isLink (n : Node) : Bool :=
  match n.content with
  | .link _ => true
  | _ => false

/-- A node with nothing left in it, if it is an ordinary file. -/
def emptied (n : Node) : Node :=
  if n.isFile then { n with content := .file [] } else n

/-- The bytes of an ordinary file or a pipe; other nodes have none. -/
def bytes (n : Node) : Bytes :=
  match n.content with
  | .file bytes | .pipe bytes => bytes
  | _ => []

end Node

/-- The table of nodes, the first one being the root, and how many changes there have been. -/
structure FileTree where
  nodes : Array Node
  changes : Nat := 0
deriving Repr, Inhabited

namespace FileTree

/-- The root directory. -/
def root : NodeId := 0

/-- The byte that separates the parts of a path. -/
def slash : UInt8 := 47

/-- The byte of a full stop. -/
def dot : UInt8 := 46

/-- The longest name of a directory entry. -/
def nameLimit : Nat := 255

/-- A path must be shorter than this. -/
def pathLimit : Nat := 4096

/-- How many links one path may lead through. -/
def linkLimit : Nat := 40

/-- A node of the table. -/
def node? (t : FileTree) (id : NodeId) : Option Node :=
  t.nodes[id]?

/-- Changes a node. -/
def modify (t : FileTree) (id : NodeId) (f : Node → Node) : FileTree :=
  { t with nodes := t.nodes.modify id f }

/-- The moment at which the machine is started, in nanoseconds since the start of 1970. -/
def startingMoment : Int := 1767225600000000000

/-- The present moment.  No two changes happen at the same one. -/
def present (t : FileTree) : Int :=
  startingMoment + t.changes

/-- Notes that the content of a node is changed now. -/
def stamp (t : FileTree) (id : NodeId) : FileTree :=
  let later := { t with changes := t.changes + 1 }
  later.modify id fun n => { n with changed := later.present }

/-- Adds a node that has no name yet. -/
def add (t : FileTree) (n : Node) : NodeId × FileTree :=
  (t.nodes.size,
    ({ t with nodes := t.nodes.push { n with changed := t.present } } : FileTree).stamp t.nodes.size)

/-- The entries of a directory; nothing else has any. -/
def entries (t : FileTree) (id : NodeId) : List (Bytes × NodeId) :=
  match t.node? id with
  | some { content := .directory entries _, .. } => entries
  | _ => []

/-- The directory above a directory. -/
def parent (t : FileTree) (id : NodeId) : NodeId :=
  match t.node? id with
  | some { content := .directory _ parent, .. } => parent
  | _ => root

/-- Whether a node allows an access. -/
def allows (t : FileTree) (id : NodeId) (access : Access) : Bool :=
  (t.node? id).any (·.allows access)

/-- Whether a node is a directory. -/
def isDirectory (t : FileTree) (id : NodeId) : Bool :=
  (t.node? id).any (·.isDirectory)

/-!
## Paths
-/

/-- The parts between the slashes of a path, with empty parts. -/
def pieces : Bytes → List Bytes
  | [] => [[]]
  | b :: rest =>
      if b = slash then [] :: pieces rest
      else
        match pieces rest with
        | [] => [[b]]
        | piece :: others => (b :: piece) :: others

/-- The steps of a path.  A slash at the end asks for a directory, which is the same as a step to the
directory itself. -/
def steps (path : Bytes) : List Bytes :=
  (pieces path).filter (!·.isEmpty) ++ (if path.getLast? = some slash then [[dot]] else [])

/-- Whether a path starts at the root. -/
def isAbsolute (path : Bytes) : Bool :=
  path.head? == some slash

/-- What a path leads to: a node that is reached without a name of its own (the root, the directory
itself, the one above it), or a name in a directory, with its node if the name is taken. -/
inductive Location where
  | plain (node : NodeId)
  | entry (directory : NodeId) (name : Bytes) (node : Option NodeId)
deriving Repr, Inhabited

/-- The node of a location. -/
def Location.node? : Location → Option NodeId
  | plain node => some node
  | entry _ _ node => node

/-- Follows the steps of a path from a directory.  A link is replaced by the steps of its target, except
that the last one is left alone if `follow` is off. -/
def walk (t : FileTree) (follow : Bool) (links : Nat) (here : NodeId) (path : List Bytes) :
    Except Errno Location :=
  match path with
  | [] => .ok (.plain here)
  | step :: rest =>
      if !t.isDirectory here then .error Errno.notDirectory
      else if !t.allows here .execute then .error Errno.denied
      else if step = [dot] then walk t follow links here rest
      else if step = [dot, dot] then walk t follow links (t.parent here) rest
      else if nameLimit < step.length then .error Errno.nameTooLong
      else
        match (t.entries here).lookup step with
        | none => if rest.isEmpty then .ok (.entry here step none) else .error Errno.noEntry
        | some id =>
            match t.node? id with
            | some { content := .link target, .. } =>
                if rest.isEmpty && !follow then .ok (.entry here step (some id))
                else
                  match links with
                  | 0 => .error Errno.tooManyLinks
                  | left + 1 =>
                      walk t follow left (if isAbsolute target then root else here)
                        (steps target ++ rest)
            | _ => if rest.isEmpty then .ok (.entry here step (some id)) else walk t follow links id rest
termination_by (links, path.length)

/-- What a path leads to from a directory. -/
def locate (t : FileTree) (here : NodeId) (path : Bytes) (follow : Bool) : Except Errno Location :=
  if path.isEmpty then .error Errno.noEntry
  else if pathLimit ≤ path.length then .error Errno.nameTooLong
  else walk t follow linkLimit (if isAbsolute path then root else here) (steps path)

/-- The node that a path leads to, links followed. -/
def resolve (t : FileTree) (here : NodeId) (path : Bytes) : Except Errno NodeId :=
  match t.locate here path true with
  | .error e => .error e
  | .ok location =>
      match location.node? with
      | some id => .ok id
      | none => .error Errno.noEntry

/-- The name of a node in a directory. -/
def entryName (t : FileTree) (directory id : NodeId) : Option Bytes :=
  ((t.entries directory).find? fun entry => entry.2 == id).map (·.1)

/-- The names from the root down to a directory, at most so many; `none` if it has been removed. -/
def namesTo (t : FileTree) : Nat → NodeId → Option (List Bytes)
  | 0, _ => none
  | fuel + 1, id =>
      if id = root then some []
      else
        match t.entryName (t.parent id) id with
        | none => none
        | some name => (namesTo t fuel (t.parent id)).map (· ++ [name])

/-- The absolute path of a directory. -/
def nameOf (t : FileTree) (id : NodeId) : Option Bytes :=
  (t.namesTo (t.nodes.size + 1) id).map fun names =>
    if names.isEmpty then [slash] else (names.map (slash :: ·)).flatten

/-!
## Changing directories
-/

/-- Changes the entries of a directory. -/
def modifyEntries (t : FileTree) (directory : NodeId)
    (f : List (Bytes × NodeId) → List (Bytes × NodeId)) : FileTree :=
  (t.stamp directory).modify directory fun n =>
    match n.content with
    | .directory entries parent => { n with content := .directory (f entries) parent }
    | _ => n

/-- Gives a node a name in a directory. -/
def link (t : FileTree) (directory : NodeId) (name : Bytes) (id : NodeId) : FileTree :=
  t.modifyEntries directory (· ++ [(name, id)])

/-- Takes a name out of a directory. -/
def unlink (t : FileTree) (directory : NodeId) (name : Bytes) : FileTree :=
  t.modifyEntries directory (·.filter (·.1 != name))

/-- Whether names may be added to a directory or taken out of it. -/
def mayChange (t : FileTree) (directory : NodeId) : Bool :=
  t.allows directory .write && t.allows directory .execute

/-- Whether a directory can still be reached, so that names may be added to it. -/
def isReachable (t : FileTree) (directory : NodeId) : Bool :=
  (t.nameOf directory).isSome

/-- Makes a node under a name that is free. -/
def create (t : FileTree) (directory : NodeId) (name : Bytes) (n : Node) :
    Except Errno (NodeId × FileTree) :=
  if !t.isReachable directory then .error Errno.noEntry
  else if !t.mayChange directory then .error Errno.denied
  else
    match t.add n with
    | (id, t') => .ok (id, t'.link directory name id)

/-- A path without the slashes at its end. -/
def dropTrailingSlashes (path : Bytes) : Bytes :=
  match path.reverse.dropWhile (· == slash) with
  | [] => path.take 1
  | rest => rest.reverse

/-- Makes a directory. -/
def makeDirectory (t : FileTree) (here : NodeId) (path : Bytes) (mode : Nat) :
    Except Errno FileTree :=
  match t.locate here (dropTrailingSlashes path) false with
  | .error e => .error e
  | .ok (.plain _) => .error Errno.nameTaken
  | .ok (.entry _ _ (some _)) => .error Errno.nameTaken
  | .ok (.entry directory name none) =>
      (t.create directory name { content := .directory [] directory, mode := mode }).map (·.2)

/-- Removes an empty directory. -/
def removeDirectory (t : FileTree) (here : NodeId) (path : Bytes) : Except Errno FileTree :=
  match t.locate here (dropTrailingSlashes path) false with
  | .error e => .error e
  | .ok (.plain _) =>
      let trimmed := dropTrailingSlashes path
      if trimmed = [slash] then .error Errno.busy
      else if (steps trimmed).getLast? = some [dot] then .error Errno.invalid
      else .error Errno.notEmpty
  | .ok (.entry _ _ none) => .error Errno.noEntry
  | .ok (.entry directory name (some id)) =>
      if !t.mayChange directory then .error Errno.denied
      else if !t.isDirectory id then .error Errno.notDirectory
      else if !(t.entries id).isEmpty then .error Errno.notEmpty
      else .ok (t.unlink directory name)

/-- Removes a name of something other than a directory. -/
def removeFile (t : FileTree) (here : NodeId) (path : Bytes) : Except Errno FileTree :=
  match t.locate here path false with
  | .error e => .error e
  | .ok (.plain _) => .error Errno.isDirectory
  | .ok (.entry _ _ none) => .error Errno.noEntry
  | .ok (.entry directory name (some id)) =>
      if !t.mayChange directory then .error Errno.denied
      else if t.isDirectory id then .error Errno.isDirectory
      else .ok (t.unlink directory name)

/-- The directories above a directory, itself included, at most so many. -/
def above (t : FileTree) : Nat → NodeId → List NodeId
  | 0, id => [id]
  | fuel + 1, id => if id = root then [id] else id :: above t fuel (t.parent id)

/-- Sets the directory above a directory. -/
def setParent (t : FileTree) (id directory : NodeId) : FileTree :=
  t.modify id fun n =>
    match n.content with
    | .directory entries _ => { n with content := .directory entries directory }
    | _ => n

/-- Puts a node under a name, whatever stood there before. -/
def place (t : FileTree) (fromDirectory : NodeId) (fromName : Bytes) (directory : NodeId)
    (name : Bytes) (id : NodeId) : FileTree :=
  (((t.unlink fromDirectory fromName).unlink directory name).link directory name id).setParent id
    directory

/-- The directory at the top, below the root, in which a node lies, if it is one whose content the system
makes up.  Nothing can be moved into or out of these. -/
def volume (t : FileTree) (id : NodeId) : Option NodeId :=
  let top := ((t.above t.nodes.size id).reverse.drop 1).head?
  top.filter fun node =>
    (t.entryName root node).any fun name => name = [100, 101, 118] || name = [112, 114, 111, 99]

/-- Whether a path asks for a directory by a slash at its end. -/
def hasTrailingSlash (path : Bytes) : Bool :=
  path.getLast? == some slash

/-- Why a node may not be put under a name that is taken by another node. -/
def replaceFault (t : FileTree) (id old : NodeId) : Option Errno :=
  if t.isDirectory id then
    if !t.isDirectory old then some Errno.notDirectory
    else if !(t.entries old).isEmpty then some Errno.notEmpty
    else none
  else if t.isDirectory old then some Errno.isDirectory
  else none

/-- Why a node may not be moved from one directory to a name in another one. -/
def moveFault (t : FileTree) (fromDirectory id directory : NodeId) (taken : Option NodeId)
    (slashes : Bool) : Option Errno :=
  if !t.isDirectory id && slashes then some Errno.notDirectory
  else if (t.above t.nodes.size directory).contains id then some Errno.invalid
  else if taken.any fun old => (t.above t.nodes.size fromDirectory).contains old then
    some Errno.notEmpty
  else if taken = some id then none
  else if !t.isReachable directory then some Errno.noEntry
  else if !t.mayChange fromDirectory || !t.mayChange directory then some Errno.denied
  else if t.isDirectory id && fromDirectory ≠ directory && !t.allows id .write then some Errno.denied
  else taken.bind (t.replaceFault id)

/-- Moves a name to another one, which it replaces if it is taken, unless nothing is to be replaced.  The
two paths start from directories of their own. -/
def rename (t : FileTree) (here : NodeId) (source : Bytes) (there : NodeId) (target : Bytes)
    (replaces : Bool) : Except Errno FileTree :=
  match t.locate here (dropTrailingSlashes source) false,
      t.locate there (dropTrailingSlashes target) false with
  | .error e, _ => .error e
  | _, .error e => .error e
  | .ok (.plain _), _ => .error Errno.busy
  | _, .ok (.plain _) => .error (if replaces then Errno.busy else Errno.nameTaken)
  | .ok (.entry fromDirectory fromName found), .ok (.entry directory name taken) =>
      if t.volume fromDirectory ≠ t.volume directory then .error Errno.crossDevice
      else
        match found with
        | none => .error Errno.noEntry
        | some id =>
            if taken.isSome && !replaces then .error Errno.nameTaken
            else
              let slashes := hasTrailingSlash source || hasTrailingSlash target
              match t.moveFault fromDirectory id directory taken slashes with
              | some e => .error e
              | none =>
                  if taken = some id then .ok t
                  else .ok (t.place fromDirectory fromName directory name id)

end FileTree

end JobShell.Machine
