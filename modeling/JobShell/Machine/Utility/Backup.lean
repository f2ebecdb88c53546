/-
Module: JobShell.Machine.Utility.Backup
Purpose: How what is replaced is kept under another name.
Main exports: BackupRule, BackupRule.choose, backupSuffix, backupPath
-/
import JobShell.Machine.Utility.Destination
import JobShell.Machine.Utility.Numeral

namespace JobShell.Machine.Utility

open Text (Bytes)

/-- How what is replaced is kept under another name. -/
inductive BackupRule where
  | none
  | simple
  | numbered
  /-- With a number if there is a numbered one already. -/
  | existing
deriving Repr, Inhabited, DecidableEq

namespace BackupRule

/-- The words for the ways to keep what is replaced. -/
def words : List (List String) :=
  [["none", "off"], ["simple", "never"], ["existing", "nil"], ["numbered", "t"]]

/-- The way that a word stands for. -/
def ofWord (word : String) : BackupRule :=
  match word with
  | "none" => .none
  | "simple" => .simple
  | "existing" => .existing
  | _ => .numbered

/-- The way to keep what is replaced: what is asked for, or else what the environment says. -/
def choose (name : Bytes) (t : Task) (asked : Option (List Char)) : Reading BackupRule :=
  match asked.getD [] with
  | [] =>
      match ((t.process.environment.get? "VERSION_CONTROL").map charsOf).getD [] with
      | [] => .ok .existing
      | word => (chooseValue t name word "$VERSION_CONTROL" words).map ofWord
  | word => (chooseValue t name word "backup type" words).map ofWord

end BackupRule

/-- The end of the name of a kept copy: what is asked for, or else what the environment says.  One that is
empty or leads elsewhere counts for nothing. -/
def backupSuffix (t : Task) (asked : Option Bytes) : Bytes :=
  let isPlain (suffix : Bytes) : Bool :=
    !suffix.isEmpty && !(FileTree.dropTrailingSlashes suffix).contains FileTree.slash
  let wanted := asked.orElse fun _ => t.process.environment.get? "SIMPLE_BACKUP_SUFFIX"
  (wanted.filter isPlain).getD (bytesOfText "~")

/-- The number of a kept copy of a name, from the name of the copy. -/
def backupNumber? (base entry : Bytes) : Option Nat :=
  let front := base ++ bytesOfText ".~"
  if !front.isPrefixOf entry then none
  else
    match (entry.drop front.length).reverse with
    | 126 :: digits =>
        match charsOf digits.reverse with
        | [] => none
        | '0' :: _ => none
        | chars => if chars.all Char.isDigit then some (digitsValue 10 chars) else none
    | _ => none

/-- A name cut down to the length that names may have, with a mark at its end. -/
def fitName (name kept : Bytes) : Bytes :=
  if kept.length ≤ FileTree.nameLimit then kept
  else name.take (FileTree.nameLimit - 1) ++ bytesOfText "~"

/-- The name under which what has a name in a directory is kept. -/
def keptName (rule : BackupRule) (suffix name : Bytes) (taken : List Bytes) : Bytes :=
  let highest := (taken.filterMap (backupNumber? name)).foldl max 0
  match rule with
  | .numbered => fitName name (name ++ bytesOfText s!".~{highest + 1}~")
  | .existing =>
      fitName name
        (if highest = 0 then name ++ suffix else name ++ bytesOfText s!".~{highest + 1}~")
  | _ => name ++ suffix

/-- The path under which what stands at a path from a directory is kept. -/
def backupPath (t : Task) (rule : BackupRule) (suffix : Bytes) (directory : NodeId) (path : Bytes) :
    Bytes :=
  let trimmed := FileTree.dropTrailingSlashes path
  let name := lastPart trimmed
  let holder :=
    match t.disk.tree.resolve directory (holderPath trimmed) with
    | .ok id => if t.disk.tree.allows id .read then some id else none
    | .error _ => none
  let taken := (holder.elim [] t.disk.tree.entries).map (·.1)
  trimmed.take (trimmed.length - name.length) ++ keptName rule suffix name taken

end JobShell.Machine.Utility
