/-
Module: JobShell.Machine.Utility.FileQuestions
Purpose: Answers to the questions that conditions ask about files.
Main exports: fileFacts
-/
import JobShell.Machine.Task
import JobShell.Machine.Utility.Condition

namespace JobShell.Machine.Utility

open Text (Bytes)

/-- Whether a node has bits among its permission bits. -/
def hasModeBit (n : Node) (bit : Nat) : Bool :=
  n.mode &&& bit ≠ 0

/-- The answer to a question about a node that exists. -/
def askNode (t : Task) (letter : Char) (id : NodeId) (n : Node) : Bool :=
  match letter with
  | 'e' => true
  | 'a' => true
  | 'f' => n.isFile
  | 'd' => n.isDirectory
  | 's' =>
      match n.content with
      | .file bytes => !bytes.isEmpty
      | .directory _ _ | .program _ => true
      | _ => false
  | 'r' => t.disk.tree.allows id .read
  | 'w' => t.disk.tree.allows id .write
  | 'x' => t.disk.tree.allows id .execute
  | 'c' => n.isDevice
  | 'p' => n.isPipe
  | 'u' => hasModeBit n 0o4000
  | 'g' => hasModeBit n 0o2000
  | 'k' => hasModeBit n 0o1000
  | 'O' | 'G' => n.own
  | _ => false

/-- The answer to a question about the file of a path. -/
def askFile (t : Task) (letter : Char) (path : List Char) : Bool :=
  if letter = 't' then false
  else
    let bytes := bytesOf path
    let isAboutLinks := letter = 'L' || letter = 'h'
    match if isAboutLinks then t.lookAt bytes else t.resolve bytes with
    | .error _ => false
    | .ok id =>
        (t.node? id).any fun n => if isAboutLinks then n.isLink else askNode t letter id n

/-- What a process can find out about files. -/
def fileFacts (t : Task) : FileFacts :=
  { ask := askFile t
    changed := fun path =>
      match t.resolve (bytesOf path) with
      | .ok id => (t.node? id).map (·.changed)
      | .error _ => none
    node := fun path => (t.resolve (bytesOf path)).toOption }

end JobShell.Machine.Utility
