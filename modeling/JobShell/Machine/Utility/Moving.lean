/-
Module: JobShell.Machine.Utility.Moving
Purpose: The program that moves and renames files and directories.
Main exports: MoveOptions, Moving, Moving.move, runMv
-/
import JobShell.Machine.Utility.Backup
import JobShell.Machine.Utility.Removal

namespace JobShell.Machine.Utility

open Text (Bytes)

/-- What is done about a name that is taken: replace it, ask, or leave it without a word. -/
inductive Overwriting where
  | replace
  | ask
  | skip
deriving Repr, Inhabited, DecidableEq

/-- What the moving program is asked to do. -/
structure MoveOptions where
  overwriting : Overwriting := .replace
  updates : Bool := false
  verbose : Bool := false
  target : Option Bytes := none
  plainTarget : Bool := false
  strips : Bool := false
  backs : Bool := false
  control : Option (List Char) := none
  suffix : Option Bytes := none
  backup : BackupRule := .none
deriving Repr, Inhabited, DecidableEq

/-- How moving goes on from operand to operand.  What has been made comes along, and so do the directories
that could not just be given a name that was free, each with the name that it was to have. -/
structure Moving where
  task : Task
  failed : Bool := false
  made : List (NodeId × Bytes) := []
  tried : List (NodeId × Bytes) := []

/-- Complains about a move that has failed. -/
def Moving.fail (m : Moving) (name text : Bytes) : Moving :=
  { m with task := complain m.task name text, failed := true }

/-- Permission bits in the way they are listed. -/
def modeLetters (mode : Nat) : String :=
  let bit (weight : Nat) (letter : Char) : Char := if mode / weight % 2 = 1 then letter else '-'
  let run (weight special : Nat) (low high : Char) : Char :=
    if mode / special % 2 = 1 then (if mode / weight % 2 = 1 then low else high) else bit weight 'x'
  String.ofList
    [bit 256 'r', bit 128 'w', run 64 2048 's' 'S', bit 32 'r', bit 16 'w', run 8 1024 's' 'S',
      bit 4 'r', bit 2 'w', run 1 512 't' 'T']

/-- A number in four octal digits at least. -/
def octalMode (mode : Nat) : String :=
  let digits := Nat.toDigits 8 mode
  String.ofList (List.replicate (4 - digits.length) '0' ++ digits)

/-- Asks whether something may be replaced. -/
def mayReplace (name : Bytes) (t : Task) (target : Bytes) (n : Node) : Bool × Task :=
  if isWriteProtected n then
    askYes t name (bytesOfText "replace " ++ shellQuoted target ++
      bytesOfText (", overriding mode " ++ octalMode n.mode ++ " (" ++ modeLetters n.mode ++ ")"))
  else askYes t name (bytesOfText "overwrite " ++ shellQuoted target)

/-- Whether a source and what stands at a place are the same thing, so that one must not replace the
other: the same node, or a link and the node that it leads to.  Where the latter is kept under another
name, it matters only that they are not the same entry. -/
def areSame (t : Task) (keeps : Bool) (source : Bytes) (d : Destination) (mover old : NodeId) : Bool :=
  let isLink (id : NodeId) : Bool := (t.node? id).any (·.isLink)
  if isLink mover && isLink old then isSameEntry t source d || (!keeps && mover = old)
  else if keeps then mover = old && isSameEntry t source d
  else if isLink mover then
    match t.resolve source with
    | .error _ => false
    | .ok id => if t.disk.tree.isDirectory old then isWrittenAs t id d old else id = old
  else mover = old

/-- Whether keeping what stands at a place would destroy the source. -/
def destroysSource (t : Task) (o : MoveOptions) (source : Bytes) (d : Destination) (mover : NodeId) :
    Bool :=
  let suffix := backupSuffix t o.suffix
  o.backup ≠ .numbered && lastPart source = lastPart d.reached ++ suffix &&
    (match t.disk.tree.resolve d.directory (FileTree.dropTrailingSlashes d.reached ++ suffix) with
    | .ok other => other = mover
    | .error _ => false)

/-!
## One move
-/

/-- A source and a place, and under which path, as it is shown, what stood at the place is kept. -/
structure Move where
  source : Bytes
  place : Destination
  kept : Option Bytes := none

/-- A source and a place with words around them. -/
def Move.told (v : Move) (front middle : String) : Bytes :=
  bytesOfText front ++ shellQuoted v.source ++ bytesOfText middle ++ shellQuoted v.place.shown

/-- Says what has been done. -/
def Move.tell (v : Move) (o : MoveOptions) (t : Task) (what : String) : Task :=
  if !o.verbose then t
  else
    let note := match v.kept with
      | some path => bytesOfText " (backup: " ++ shellQuoted path ++ bytesOfText ")"
      | none => []
    t.print (v.told what " -> " ++ note ++ [10])

/-- Notes that a move has been made. -/
def Moving.done (m : Moving) (o : MoveOptions) (v : Move) (t : Task) : Moving :=
  let made := match v.place.look t with
    | .ok id => (id, v.place.path) :: m.made
    | .error _ => m.made
  { m with task := v.tell o t "renamed ", made := made }

/-- Puts back what has been kept. -/
def Moving.putBack (m : Moving) (o : MoveOptions) (name : Bytes) (v : Move) (kept : Option Bytes) :
    Moving :=
  match kept, v.kept with
  | some path, some shown =>
      match m.task.change fun tree =>
        tree.rename v.place.directory path v.place.directory v.place.path true with
      | .error e =>
          m.fail name (because (bytesOfText "cannot un-backup " ++ shellQuoted v.place.shown) e)
      | .ok t =>
          if !o.verbose then { m with task := t }
          else
            { m with
              task :=
                t.print (shellQuoted shown ++ bytesOfText " -> " ++ shellQuoted v.place.shown ++
                  bytesOfText " (unbackup)\n") }
  | _, _ => m

/-- Complains that what lies in another volume cannot be made anew at a place. -/
def Moving.cannotMake (m : Moving) (name : Bytes) (v : Move) (n : Node) : Moving :=
  let (what, reason) :=
    match n.content with
    | .directory _ _ => ("directory", Errno.denied)
    | .link _ => ("symbolic link", Errno.denied)
    | .device _ => ("special file", Errno.notPermitted)
    | _ => ("regular file", Errno.denied)
  m.fail name (because (bytesOfText ("cannot create " ++ what ++ " ") ++ shellQuoted v.place.shown)
    reason)

/-- Tries to move what lies in another volume: what stands at the place is removed first. -/
def Moving.across (m : Moving) (o : MoveOptions) (name : Bytes) (v : Move) (kept : Option Bytes)
    (n : Node) : Moving :=
  let removed : Except Errno Task :=
    m.task.change fun tree =>
      if n.isDirectory then tree.removeDirectory v.place.directory v.place.reached
      else tree.removeFile v.place.directory v.place.reached
  let go (t : Task) : Moving :=
    let told := if n.isDirectory then t else v.tell o t "copied "
    ({ m with task := told }.cannotMake name v n).putBack o name v kept
  match removed with
  | .ok t => go t
  | .error e =>
      if e = Errno.noEntry then go m.task
      else
        m.fail name
          (because (v.told "inter-device move failed: " " to " ++ bytesOfText "; unable to remove target")
            e)

/-- Forgets that a directory was to have a name. -/
def Moving.forget (m : Moving) (mover : NodeId) : Moving :=
  { m with tried := m.tried.filter (·.1 != mover) }

/-- Moves a source for good.  `reason` is why it could not be given the name before: if the name was taken,
it is replaced now.  `kept` is the path of what stood at the place, from its directory. -/
def Moving.conclude (m : Moving) (o : MoveOptions) (name : Bytes) (v : Move) (kept : Option Bytes)
    (mover : NodeId) (n : Node) (reason : Errno) : Moving :=
  let again : Except Errno Task :=
    if reason = Errno.nameTaken then
      m.task.change fun tree =>
        tree.rename m.task.process.directory v.source v.place.directory v.place.reached true
    else .error reason
  match again with
  | .ok t => m.done o v t
  | .error e =>
      if e = Errno.invalid then m.fail name (v.told "cannot move " " to a subdirectory of itself, ")
      else if e = Errno.crossDevice then m.across o name v kept n
      else (m.fail name (because (v.told "cannot move " " to ") e)).forget mover

/-- Moves a source that could not just be given its name.  A directory that was to have a name before is
left where it is. -/
def Moving.force (m : Moving) (o : MoveOptions) (name : Bytes) (v : Move) (kept : Option Bytes)
    (mover : NodeId) (n : Node) (reason : Errno) : Moving :=
  if !n.isDirectory then m.conclude o name v kept mover n reason
  else
    match m.tried.lookup mover with
    | none =>
        ({ m with tried := (mover, v.place.path) :: m.tried } : Moving).conclude o name v kept mover n
          reason
    | some earlier =>
        if lastPart earlier = lastPart v.place.reached then
          { m with
            task :=
              complain m.task name (bytesOfText "warning: source directory " ++ shellQuoted v.source ++
                bytesOfText " specified more than once") }
        else
          let front := v.place.shown.take (v.place.shown.length - v.place.path.length)
          m.fail name (bytesOfText "will not create hard link " ++ shellQuoted v.place.shown ++
            bytesOfText " to directory " ++ shellQuoted (front ++ earlier))

/-- Keeps what stands at a place under another name and moves a source there.  What is kept under a simple
name goes to the working directory if the place was given by a directory. -/
def Moving.replace (m : Moving) (o : MoveOptions) (name : Bytes) (v : Move) (mover : NodeId) (n : Node) :
    Moving :=
  if o.backup = .none || endsInDots v.source then m.force o name v none mover n Errno.nameTaken
  else if destroysSource m.task o v.source v.place mover then
    m.fail name (bytesOfText "backing up " ++ shellQuoted v.place.shown ++
      bytesOfText " might destroy source;  " ++ shellQuoted v.source ++ bytesOfText " not moved")
  else
    let place := v.place
    let kept := backupPath m.task o.backup (backupSuffix m.task o.suffix) place.directory place.path
    let keeper := if o.backup = .simple then m.task.process.directory else place.directory
    match m.task.change fun tree => tree.rename place.directory place.path keeper kept true with
    | .error e =>
        if e = Errno.noEntry then m.force o name v none mover n Errno.nameTaken
        else m.fail name (because (bytesOfText "cannot backup " ++ shellQuoted place.shown) e)
    | .ok t =>
        let shown := place.shown.take (place.shown.length - place.path.length) ++ kept
        ({ m with task := t } : Moving).force o name { v with kept := some shown } (some kept) mover n
          Errno.nameTaken

/-- Why one thing may not replace another, unless that is kept. -/
def overwriteFault (o : MoveOptions) (v : Move) (mover old : Node) : Option Bytes :=
  if o.backup ≠ .none then none
  else if mover.isDirectory && !old.isDirectory then
    some (bytesOfText "cannot overwrite non-directory " ++ shellQuoted v.place.shown ++
      bytesOfText " with directory " ++ shellQuoted v.source)
  else if !mover.isDirectory && old.isDirectory then
    some (bytesOfText "cannot overwrite directory " ++ shellQuoted v.place.shown ++
      bytesOfText " with non-directory")
  else none

/-- Moves a source to a place at which something stands. -/
def Moving.onto (m : Moving) (o : MoveOptions) (name : Bytes) (v : Move) (mover old : NodeId)
    (n taken : Node) : Moving :=
  let go (m : Moving) : Moving :=
    match overwriteFault o v n taken with
    | some text => m.fail name text
    | none =>
        if !taken.isDirectory && o.backup ≠ .numbered && m.made.contains (old, v.place.path) then
          m.fail name (bytesOfText "will not overwrite just-created " ++ shellQuoted v.place.shown ++
            bytesOfText " with " ++ shellQuoted v.source)
        else m.replace o name v mover n
  if areSame m.task (o.backup ≠ .none) v.source v.place mover old then
    m.fail name (v.told "" " and " ++ bytesOfText " are the same file")
  else if o.updates && !n.isDirectory && n.changed ≤ taken.changed then m
  else if o.overwriting = .ask then
    match mayReplace name m.task v.place.shown taken with
    | (true, t) => go { m with task := t }
    | (false, t) => { m with task := t }
  else go m

/-- Moves a source to a place that it could not just be given, for a reason. -/
def Moving.retry (m : Moving) (o : MoveOptions) (name : Bytes) (v : Move) (reason : Errno) : Moving :=
  let about (path : Bytes) (e : Errno) : Moving :=
    m.fail name (because (bytesOfText "cannot stat " ++ shellQuoted path) e)
  if reason = Errno.nameTaken && o.overwriting = .skip then m
  else
    match m.task.lookAt v.source with
    | .error e => about v.source e
    | .ok mover =>
        match m.task.node? mover, v.place.look m.task with
        | none, _ => m
        | some n, .error e =>
            if e = Errno.noEntry then m.force o name v none mover n reason else about v.place.shown e
        | some n, .ok old =>
            if o.overwriting = .skip then m
            else (m.task.node? old).elim m fun taken => m.onto o name v mover old n taken

/-- Moves a source to a place. -/
def Moving.move (m : Moving) (o : MoveOptions) (name : Bytes) (v : Move) : Moving :=
  match v.place.take v.source false m.task with
  | .ok t => m.done o v t
  | .error reason => m.retry o name v reason

/-!
## Options
-/

/-- Takes in an option of the moving program. -/
def MoveOptions.take (name : Bytes) (t : Task) (o : MoveOptions) (key : String)
    (argument : Option (List Char)) : Reading MoveOptions :=
  let word := argument.getD []
  match key with
  | "f" => .ok { o with overwriting := .replace }
  | "i" => .ok { o with overwriting := .ask }
  | "n" => .ok { o with overwriting := .skip }
  | "v" => .ok { o with verbose := true }
  | "T" => .ok { o with plainTarget := true }
  | "strip" => .ok { o with strips := true }
  | "t" =>
      if o.target.isSome then
        .error (complain t name (bytesOfText "multiple target directories specified"), 1)
      else .ok { o with target := some (bytesOf word) }
  | "b" => .ok { o with backs := true, control := argument.orElse fun _ => o.control }
  | "S" => .ok { o with backs := true, suffix := some (bytesOf word) }
  | "u" => .ok { o with updates := true }
  | _ => .ok o

/-- The options of the moving program. -/
def mvTable : OptionTable :=
  { letters := plainLetters "bfinuvTZ" ++ letterWithArgument "tS"
    names :=
      [⟨"backup", "b", .optional⟩, ⟨"context", "Z", .none⟩,
        ⟨"force", "f", .none⟩, ⟨"interactive", "i", .none⟩, ⟨"no-clobber", "n", .none⟩,
        ⟨"no-target-directory", "T", .none⟩,
        ⟨"strip-trailing-slashes", "strip", .none⟩, ⟨"suffix", "S", .required⟩,
        ⟨"target-directory", "t", .required⟩, ⟨"update", "u", .none⟩,
        ⟨"verbose", "v", .none⟩, ⟨"help", "help", .none⟩, ⟨"version", "version", .none⟩] }

/-!
## The program
-/

/-- How the operands are to be moved: into a directory, or a single one to a path, after a first try. -/
inductive MovePlan where
  | into (path : Bytes) (directory : NodeId) (sources : List Bytes)
  | onto (source target : Bytes)
  | tried (source target : Bytes) (reason : Option Errno)

/-- The directory of a path, or why it is none. -/
def directoryAt (t : Task) (path : Bytes) : Except Errno NodeId :=
  match t.resolve path with
  | .error reason => .error reason
  | .ok id => if t.disk.tree.isDirectory id then .ok id else .error Errno.notDirectory

/-- How operands are to be moved; the first try may have changed something already. -/
def planMoves (o : MoveOptions) (name : Bytes) (operands : List Bytes) (t : Task) :
    Reading (MovePlan × Task) :=
  let refuse (text : Bytes) : Reading (MovePlan × Task) := .error (complain t name text, 1)
  let misused (text : Bytes) : Reading (MovePlan × Task) := .error (complainUsage t name text, 1)
  match o.target, operands with
  | _, [] => misused (bytesOfText "missing file operand")
  | none, [only] =>
      misused (bytesOfText "missing destination file operand after " ++ shellQuoted only)
  | some directory, sources =>
      if o.plainTarget then
        refuse
          (bytesOfText "cannot combine --target-directory (-t) and --no-target-directory (-T)")
      else
        match directoryAt t directory with
        | .ok id => .ok (.into directory id sources, t)
        | .error e => refuse (because (bytesOfText "target directory " ++ shellQuoted directory) e)
  | none, [source, target] =>
      if o.plainTarget then .ok (.onto source target, t)
      else
        match (Destination.ofPath t target).take source false t with
        | .ok t' => .ok (.tried source target none, t')
        | .error reason =>
            match directoryAt t target with
            | .ok id => .ok (.into target id [source], t)
            | .error _ => .ok (.tried source target (some reason), t)
  | none, _ :: _ :: third :: _ =>
      let target := operands.getLast?.getD []
      if o.plainTarget then misused (bytesOfText "extra operand " ++ shellQuoted third)
      else
        match directoryAt t target with
        | .ok id => .ok (.into target id operands.dropLast, t)
        | .error e => refuse (because (bytesOfText "target " ++ shellQuoted target) e)

/-- Carries out how operands are to be moved. -/
def MovePlan.run (o : MoveOptions) (name : Bytes) (t : Task) : MovePlan → Moving
  | .into path directory sources =>
      (sources.map (strip o)).foldl (fun m source =>
        m.move o name { source, place := Destination.inside path directory source }) { task := t }
  | .onto source target =>
      let v : Move := { source := strip o source, place := Destination.ofPath t (strip o target) }
      ({ task := t } : Moving).move o name v
  | .tried source target reason =>
      let v : Move := { source := strip o source, place := Destination.ofPath t (strip o target) }
      match reason with
      | none => ({ task := t } : Moving).done o v t
      | some e => ({ task := t } : Moving).retry o name v e
where
  /-- An operand without the slashes at its end, if that is wanted. -/
  strip (o : MoveOptions) (operand : Bytes) : Bytes :=
    if o.strips then FileTree.dropTrailingSlashes operand else operand

/-- Moves files and directories. -/
def runMv (name : Bytes) (arguments : List Bytes) (t : Task) : Finished :=
  let (seen, operands) := scanWords mvTable t arguments
  concluded name 1 <|
    withSettings (readOptions .mv name 1 t ({} : MoveOptions) (MoveOptions.take name t) seen) fun o =>
      withSettings (planMoves o name operands t) fun (plan, t') =>
        if o.backs && o.overwriting = .skip then
          (complainUsage t' name
            (bytesOfText "options --backup and --no-clobber are mutually exclusive"), 1)
        else
          withSettings (if o.backs then BackupRule.choose name t' o.control else .ok .none) fun rule =>
            let m :=
              plan.run
                { o with backup := rule, updates := o.updates && o.overwriting ≠ .skip } name t'
            (m.task, if m.failed then 1 else 0)

end JobShell.Machine.Utility
