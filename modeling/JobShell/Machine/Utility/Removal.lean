/-
Module: JobShell.Machine.Utility.Removal
Purpose: The programs that remove files and directories.
Main exports: RemoveOptions, removeEntry, runRm, runRmdir
-/
import JobShell.Machine.Utility.Paths

namespace JobShell.Machine.Utility

open Text (Bytes)

/-- What the removing program is asked to do. -/
structure RemoveOptions where
  force : Bool := false
  deep : Bool := false
  directories : Bool := false
  verbose : Bool := false
  /-- Ask about everything. -/
  asks : Bool := false
  /-- Ask once if there is much to remove. -/
  asksOnce : Bool := false
  keepsRoot : Bool := true
deriving Repr, Inhabited, DecidableEq

/-- What has become of something that was to be removed: it is gone, it was to stay, or it could not be
removed. -/
inductive RemoveResult where
  | gone
  | declined
  | failed
deriving Repr, DecidableEq

/-- What kind of thing a node is, in words. -/
def kindOf (n : Node) : String :=
  match n.content with
  | .directory _ _ => "directory"
  | .link _ => "symbolic link"
  | .device _ => "character special file"
  | .pipe _ => "fifo"
  | .file [] => "regular empty file"
  | _ => "regular file"

/-- Whether nothing may be written into a node. -/
def isWriteProtected (n : Node) : Bool :=
  !n.isLink && !n.allows .write

/-- Asks whether something is to be done with a node, if questions are wanted. -/
def mayTouch (o : RemoveOptions) (name : Bytes) (t : Task) (verb : String) (path : Bytes) (n : Node) :
    Bool × Task :=
  if !o.asks then (true, t)
  else
    let guarded := if isWriteProtected n then "write-protected " else ""
    askYes t name (bytesOfText (verb ++ " " ++ guarded ++ kindOf n ++ " ") ++ shellQuoted path)

/-- Complains that something cannot be removed. -/
def cannotRemove (name : Bytes) (t : Task) (path : Bytes) (reason : Errno) : RemoveResult × Task :=
  (.failed, complain t name (because (bytesOfText "cannot remove " ++ shellQuoted path) reason))

/-- Whether what is missing does not matter. -/
def isForgiven (o : RemoveOptions) (reason : Errno) : Bool :=
  o.force && (reason = Errno.noEntry || reason = Errno.notDirectory)

/-- Removes a name: an empty directory, or something else.  `unread` is the reason why a directory could
not be read. -/
def excise (o : RemoveOptions) (name : Bytes) (isDirectory : Bool) (unread : Option Errno) (t : Task)
    (path : Bytes) : RemoveResult × Task :=
  let here := t.process.directory
  match t.change fun tree =>
    if isDirectory then tree.removeDirectory here path else tree.removeFile here path with
  | .ok t' =>
      let told := if isDirectory then "removed directory " else "removed "
      (.gone, if o.verbose then t'.print (bytesOfText told ++ shellQuoted path ++ [10]) else t')
  | .error reason =>
      if isForgiven o reason then (.gone, t)
      else cannotRemove name t path (if reason = Errno.notEmpty then unread.getD reason else reason)

/-- Whether a directory has nothing in it that can be seen. -/
def looksEmpty (t : Task) (id : NodeId) : Bool :=
  t.disk.tree.allows id .read && (t.disk.tree.entries id).isEmpty

/-- Asks about a directory and removes it. -/
def removeEmptied (o : RemoveOptions) (name : Bytes) (unread : Option Errno) (n : Node) (t : Task)
    (path : Bytes) : RemoveResult × Task :=
  match mayTouch o name t "remove" path n with
  | (false, t') => (.declined, t')
  | (true, t') => excise o name true unread t' path

/-- Removes what a path leads to, at most so deep, with everything below it.  A directory in which
something could not be removed stays without a further word. -/
def removeEntry (o : RemoveOptions) (name : Bytes) : Nat → Task → Bytes → RemoveResult × Task
  | 0, t, path => cannotRemove name t path Errno.nameTooLong
  | depth + 1, t, path =>
      match t.lookAt path with
      | .error reason =>
          if isForgiven o reason then (.gone, t) else cannotRemove name t path reason
      | .ok id =>
          match t.node? id with
          | none => (.gone, t)
          | some n =>
              if !n.isDirectory then
                match mayTouch o name t "remove" path n with
                | (false, t') => (.declined, t')
                | (true, t') => excise o name false none t' path
              else if looksEmpty t id then removeEmptied o name none n t path
              else
                match mayTouch o name t "descend into" path n with
                | (false, t') => (.declined, t')
                | (true, t') =>
                  if !t.disk.tree.allows id .read then removeEmptied o name (some Errno.denied) n t' path
                  else
                    let (clean, t'') :=
                      (t'.disk.tree.entries id).foldl (fun (soFar : Bool × Task) entry =>
                        let (result, next) := removeEntry o name depth soFar.2 (underPath path entry.1)
                        (soFar.1 && result != .failed, next)) (true, t')
                    if clean then removeEmptied o name none n t'' path else (.failed, t'')

/-- A path with at most one slash at its end. -/
def oneTrailingSlash (path : Bytes) : Bytes :=
  if path.getLast? = some FileTree.slash then
    let front := FileTree.dropTrailingSlashes path
    if front = [FileTree.slash] then front else front ++ [FileTree.slash]
  else path

/-- Removes an operand. -/
def removeOperand (o : RemoveOptions) (name : Bytes) (soFar : Finished) (operand : Bytes) : Finished :=
  let (t, status) := soFar
  let path := oneTrailingSlash operand
  let refused (t : Task) (text : Bytes) : Finished := (complain t name text, 1)
  let isDirectory :=
    match t.lookAt path with
    | .ok id => t.disk.tree.isDirectory id
    | .error _ => false
  let isRoot :=
    match t.lookAt path with
    | .ok id => id == FileTree.root
    | .error _ => false
  let isEmpty :=
    match t.lookAt path with
    | .ok id => looksEmpty t id
    | .error _ => false
  if isDirectory && !o.deep && !(o.directories && isEmpty) then
    refused t (because (bytesOfText "cannot remove " ++ shellQuoted path)
      (if o.directories then Errno.notEmpty else Errno.isDirectory))
  else if isDirectory && endsInDots path then
    refused t (bytesOfText "refusing to remove '.' or '..' directory: skipping " ++ shellQuoted path)
  else if isRoot && o.keepsRoot then
    refused (complain t name (bytesOfText "it is dangerous to operate recursively on " ++
        (if path = [FileTree.slash] then shellQuoted path
          else shellQuoted path ++ bytesOfText " (same as '/')")))
      (bytesOfText "use --no-preserve-root to override this failsafe")
  else
    match removeEntry o name (t.disk.tree.nodes.size + 1) t path with
    | (.failed, t') => (t', 1)
    | (_, t') => (t', status)

/-- The options of the removing program. -/
def rmTable : OptionTable :=
  { letters := plainLetters "dfiIrRv"
    names :=
      [⟨"force", "f", .none⟩, ⟨"interactive", "interactive", .optional⟩,
        ⟨"one-file-system", "same", .none⟩, ⟨"no-preserve-root", "root", .none⟩,
        ⟨"preserve-root", "keep", .optional⟩, ⟨"recursive", "r", .none⟩, ⟨"dir", "d", .none⟩,
        ⟨"verbose", "v", .none⟩, ⟨"help", "help", .none⟩, ⟨"version", "version", .none⟩] }

/-- The words that say when to ask. -/
def askingWords : List (List String) :=
  [["never", "no", "none"], ["once"], ["always", "yes"]]

/-- Takes in an option of the removing program. -/
def RemoveOptions.take (name : Bytes) (t : Task) (arguments : List Bytes) (o : RemoveOptions)
    (key : String) (argument : Option (List Char)) : Reading RemoveOptions :=
  let asking (word : String) : RemoveOptions :=
    match word with
    | "never" => { o with asks := false, asksOnce := false }
    | "once" => { o with asks := false, asksOnce := true, force := false }
    | _ => { o with asks := true, asksOnce := false, force := false }
  match key with
  | "d" => .ok { o with directories := true }
  | "f" => .ok { o with force := true, asks := false, asksOnce := false }
  | "i" => .ok (asking "always")
  | "I" => .ok (asking "once")
  | "r" | "R" => .ok { o with deep := true }
  | "v" => .ok { o with verbose := true }
  | "root" =>
      if arguments.contains (bytesOfText "--no-preserve-root") then .ok { o with keepsRoot := false }
      else
        .error (complain t name (bytesOfText "you may not abbreviate the --no-preserve-root option"), 1)
  | "keep" =>
      match argument with
      | none => .ok { o with keepsRoot := true }
      | some word =>
          if word = "all".toList then .ok { o with keepsRoot := true }
          else
            .error (complain t name (bytesOfText "unrecognized --preserve-root argument: " ++
              inQuotes (bytesOf word)), 1)
  | "interactive" =>
      match argument with
      | none => .ok (asking "always")
      | some word =>
          (chooseValue t name word "--interactive" askingWords).map asking
  | _ => .ok o

/-- Points out how to name a file that looks like an option. -/
def pointToDashes (t : Task) (name : Bytes) (arguments : List Bytes) : Task :=
  arguments.foldl (fun t word =>
    match word with
    | 45 :: _ :: _ =>
        match t.lookAt word with
        | .ok _ =>
            t.err (bytesOfText "Try '" ++ name ++ bytesOfText " " ++
              (if needsQuotes (charsOf ([46, 47] ++ word)) then shellQuoted ([46, 47] ++ word)
                else [46, 47] ++ word) ++
              bytesOfText "' to remove the file " ++ shellQuoted word ++ bytesOfText ".\n")
        | .error _ => t
    | _ => t) t

/-- Reads the options of the removing program. -/
def readRemoveOptions (name : Bytes) (arguments : List Bytes) (t : Task) (seen : List Sighting) :
    Reading RemoveOptions :=
  match seen.getLast? with
  | some (.mistake text) =>
      match readOptions .rm name 1 t ({} : RemoveOptions) (RemoveOptions.take name t arguments)
          seen.dropLast with
      | .error finished => .error finished
      | .ok _ =>
          .error (pointToHelp (pointToDashes (complain t name (bytesOf text)) name arguments) name, 1)
  | _ => readOptions .rm name 1 t ({} : RemoveOptions) (RemoveOptions.take name t arguments) seen

/-- How many operands a single question covers at most. -/
def manyOperands : Nat := 3

/-- Asks once whether all operands are to be removed, if there are many or their depth is not known. -/
def askAbout (o : RemoveOptions) (name : Bytes) (count : Nat) (t : Task) : Bool × Task :=
  if !o.asksOnce || !(o.deep || manyOperands < count) then (true, t)
  else
    let noun := if count = 1 then "argument" else "arguments"
    let how := if o.deep then " recursively" else ""
    askYes t name (bytesOfText s!"remove {count} {noun}{how}")

/-- Removes files. -/
def runRm (name : Bytes) (arguments : List Bytes) (t : Task) : Finished :=
  let (seen, operands) := scanWords rmTable t arguments
  concluded name 1 <| withSettings (readRemoveOptions name arguments t seen) fun o =>
    if operands.isEmpty then
      if o.force then (t, 0) else (complainUsage t name (bytesOfText "missing operand"), 1)
    else
      match askAbout o name operands.length t with
      | (false, t') => (t', 0)
      | (true, t') => operands.foldl (removeOperand o name) (t', 0)

/-!
## Empty directories
-/

/-- What the program for empty directories is asked to do. -/
structure RmdirOptions where
  parents : Bool := false
  verbose : Bool := false
  ignoresFull : Bool := false
deriving Repr, Inhabited, DecidableEq

/-- The options of the program for empty directories. -/
def rmdirTable : OptionTable :=
  { letters := plainLetters "pv"
    names :=
      [⟨"ignore-fail-on-non-empty", "ignore", .none⟩, ⟨"path", "p", .none⟩,
        ⟨"parents", "p", .none⟩, ⟨"verbose", "v", .none⟩, ⟨"help", "help", .none⟩,
        ⟨"version", "version", .none⟩] }

/-- Whether a directory is not seen to be empty. -/
def looksFull (t : Task) (path : Bytes) : Bool :=
  match t.resolve path with
  | .ok id => t.disk.tree.isDirectory id && !looksEmpty t id
  | .error _ => false

/-- Whether a directory may stay because there may be something in it. -/
def mayStay (o : RmdirOptions) (t : Task) (path : Bytes) (reason : Errno) : Bool :=
  o.ignoresFull &&
    (reason = Errno.notEmpty || reason = Errno.nameTaken ||
      ((reason = Errno.denied || reason = Errno.notPermitted || reason = Errno.busy) &&
        looksFull t path))

/-- Removes one empty directory, with a word before it if that is wanted. -/
def removeEmpty (o : RmdirOptions) (name : Bytes) (what : String) (t : Task) (path : Bytes) :
    Bool × Finished :=
  let told :=
    if o.verbose then
      t.print (name ++ bytesOfText ": removing directory, " ++ shellQuoted path ++ [10])
    else t
  let isLink :=
    path.getLast? = some FileTree.slash &&
      match t.lookAt (FileTree.dropTrailingSlashes path) with
      | .ok id => (t.node? id).any (·.isLink)
      | .error _ => false
  match told.change fun tree => tree.removeDirectory t.process.directory path with
  | .ok t' => (true, t', 0)
  | .error reason =>
      if mayStay o told path reason then (false, told, 0)
      else if isLink && reason = Errno.notDirectory then
        (false, complain told name (bytesOfText "failed to remove " ++ shellQuoted path ++
          bytesOfText ": Symbolic link not followed"), 1)
      else
        (false, complain told name (because (bytesOfText what ++ shellQuoted path) reason), 1)

/-- Removes empty directories one after the other as long as that works. -/
def removeChain (o : RmdirOptions) (name : Bytes) : List Bytes → Task → Finished
  | [], t => (t, 0)
  | path :: rest, t =>
      match removeEmpty o name "failed to remove directory " t path with
      | (true, t', _) => removeChain o name rest t'
      | (false, finished) => finished

/-- Removes empty directories. -/
def runRmdir (name : Bytes) (arguments : List Bytes) (t : Task) : Finished :=
  let (seen, operands) := scanWords rmdirTable t arguments
  let take (o : RmdirOptions) (key : String) (_ : Option (List Char)) : Reading RmdirOptions :=
    match key with
    | "p" => .ok { o with parents := true }
    | "v" => .ok { o with verbose := true }
    | "ignore" => .ok { o with ignoresFull := true }
    | _ => .ok o
  concluded name 1 <| withSettings (readOptions .rmdir name 1 t ({} : RmdirOptions) take seen) fun o =>
    if operands.isEmpty then (complainUsage t name (bytesOfText "missing operand"), 1)
    else
      operands.foldl (fun (soFar : Finished) operand =>
        match removeEmpty o name "failed to remove " soFar.1 operand with
        | (false, t', status) => (t', max soFar.2 status)
        | (true, t', _) =>
            if !o.parents then (t', soFar.2)
            else
              let (t'', status) := removeChain o name (parentPaths operand.length operand) t'
              (t'', max soFar.2 status)) (t, 0)

end JobShell.Machine.Utility
