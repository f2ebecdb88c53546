/-
Module: JobShell.Machine.Utility.Destination
Purpose: The places that things are moved to: a path, or a name in a directory that is held open.
Main exports: Destination, Destination.ofPath, Destination.inside, Destination.look, isSameEntry
-/
import JobShell.Machine.Utility.Paths

namespace JobShell.Machine.Utility

open Text (Bytes)

/-- A place that something is moved to: its path as it is shown, and the path by which it is reached from
a directory. -/
structure Destination where
  shown : Bytes
  directory : NodeId
  path : Bytes
deriving Repr, Inhabited, DecidableEq

namespace Destination

/-- The place of a path from the working directory. -/
def ofPath (t : Task) (path : Bytes) : Destination :=
  { shown := path, directory := t.process.directory, path := path }

/-- The path of a name in a directory; slashes at the end of the directory's path count once. -/
def shownInside (directory name : Bytes) : Bytes :=
  if directory.all (· == FileTree.slash) then directory ++ name
  else FileTree.dropTrailingSlashes directory ++ FileTree.slash :: name

/-- The place for a source in a directory: the last part of its path is the name. -/
def inside (path : Bytes) (directory : NodeId) (source : Bytes) : Destination :=
  let name := if source.all (· == FileTree.slash) then [] else lastPart source
  { shown := shownInside path name, directory := directory, path := name }

/-- The path by which the place is reached once a move has been tried: no path at all stands for the
directory itself. -/
def reached (d : Destination) : Bytes :=
  if d.path.isEmpty then [FileTree.dot] else d.path

/-- The node at the place, links not followed. -/
def look (d : Destination) (t : Task) : Except Errno NodeId :=
  t.lookFrom d.directory d.reached

/-- The node of the directory that the place lies in, links not followed. -/
def holder (d : Destination) (t : Task) : Option NodeId :=
  (t.lookFrom d.directory (holderPath d.reached)).toOption

/-- Moves a source to the place. -/
def take (d : Destination) (source : Bytes) (replaces : Bool) (t : Task) : Except Errno Task :=
  t.change fun tree => tree.rename t.process.directory source d.directory d.path replaces

end Destination

/-- Whether a path and a place are the same entry of a directory: the names are the same and so are the
directories that they lie in, as these are written.  A link to a directory is not that directory. -/
def isSameEntry (t : Task) (source : Bytes) (d : Destination) : Bool :=
  lastPart source == lastPart d.reached &&
    (t.lookAt (holderPath source)).toOption == d.holder t

/-- Whether the absolute path of a node is the one by which a place is written, given the node there. -/
def isWrittenAs (t : Task) (id : NodeId) (d : Destination) (there : NodeId) : Bool :=
  id == there &&
    if id == FileTree.root then lastPart d.reached == [FileTree.slash]
    else
      d.holder t == some (t.disk.tree.parent id) &&
        t.disk.tree.entryName (t.disk.tree.parent id) id == some (lastPart d.reached)

end JobShell.Machine.Utility
