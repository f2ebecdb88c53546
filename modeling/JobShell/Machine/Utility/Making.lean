/-
Module: JobShell.Machine.Utility.Making
Purpose: The programs that make directories and files, or note that files have just been changed.
Main exports: runMkdir, runTouch
-/
import JobShell.Machine.Utility.DateText
import JobShell.Machine.Utility.Paths
import JobShell.Machine.Utility.PermissionMode

namespace JobShell.Machine.Utility

open Text (Bytes)

/-!
## Directories
-/

/-- What the program for directories is asked to do. -/
structure MkdirOptions where
  parents : Bool := false
  verbose : Bool := false
  mode : Option (List Char) := none
deriving Repr, Inhabited, DecidableEq

/-- The places in a path behind its parts, with the last part first; `place` is where the rest starts. -/
def partEnds (place : Nat) (inside : Bool) (seen : List Nat) : Bytes → List Nat
  | [] => if inside then place :: seen else seen
  | b :: rest =>
      if b = FileTree.slash then
        partEnds (place + 1) false (if inside then place :: seen else seen) rest
      else partEnds (place + 1) true seen rest

/-- The paths from the first part of a path to the whole, as they are written. -/
def pathStages (path : Bytes) : List Bytes :=
  ((partEnds 0 false [] path).map path.take).reverse

/-- Says that a directory has been made. -/
def tellMade (o : MkdirOptions) (name : Bytes) (t : Task) (path : Bytes) : Task :=
  if o.verbose then
    t.print (name ++ bytesOfText ": created directory " ++ shellQuoted path ++ [10])
  else t

/-- Makes one directory on the way to another one. -/
def makeStage (o : MkdirOptions) (name : Bytes) (mode : Nat) (t : Task) (path : Bytes) :
    Except (Bytes × Errno) Task :=
  if endsInDots path then .ok t
  else
    match t.change fun tree => tree.makeDirectory t.process.directory path mode with
    | .ok t' => .ok (tellMade o name t' path)
    | .error reason =>
        match t.resolve path with
        | .ok id =>
            if t.disk.tree.isDirectory id then .ok t else .error (path, Errno.notDirectory)
        | .error fault => .error (path, if fault = Errno.noEntry then reason else fault)

/-- Makes the directories on the way to another one. -/
def makeStages (o : MkdirOptions) (name : Bytes) (mode : Nat) :
    List Bytes → Task → Except (Bytes × Errno × Task) Task
  | [], t => .ok t
  | path :: rest, t =>
      match makeStage o name mode t path with
      | .error (at_, reason) => .error (at_, reason, t)
      | .ok t' => makeStages o name mode rest t'

/-- Complains that a directory cannot be made. -/
def cannotMake (name : Bytes) (t : Task) (path : Bytes) (reason : Errno) : Finished :=
  (complain t name (because (bytesOfText "cannot create directory " ++ inQuotes path) reason), 1)

/-- Makes the directory of an operand. -/
def makeOperand (o : MkdirOptions) (name : Bytes) (mode : Nat) (soFar : Finished) (path : Bytes) :
    Finished :=
  let (t, status) := soFar
  let way : Except (Bytes × Errno × Task) Task :=
    if o.parents then
      makeStages o name (maskMode 0o777 t.process.mask ||| 0o300) (pathStages path).dropLast t
    else .ok t
  match way with
  | .error (at_, reason, t') => cannotMake name t' at_ reason
  | .ok t' =>
      match t'.change fun tree => tree.makeDirectory t.process.directory path mode with
      | .ok t'' => (tellMade o name t'' path, status)
      | .error reason =>
          if o.parents && t'.isDirectoryAt path then (t', status)
          else cannotMake name t' path reason

/-- The options of the program for directories. -/
def mkdirTable : OptionTable :=
  { letters := plainLetters "pvZ" ++ letterWithArgument "m"
    names :=
      [⟨"context", "Z", .optional⟩, ⟨"mode", "m", .required⟩, ⟨"parents", "p", .none⟩,
        ⟨"verbose", "v", .none⟩, ⟨"help", "help", .none⟩, ⟨"version", "version", .none⟩] }

/-- Makes directories. -/
def runMkdir (name : Bytes) (arguments : List Bytes) (t : Task) : Finished :=
  let (seen, operands) := scanWords mkdirTable t arguments
  let take (o : MkdirOptions) (key : String) (argument : Option (List Char)) :
      Reading MkdirOptions :=
    match key with
    | "p" => .ok { o with parents := true }
    | "v" => .ok { o with verbose := true }
    | "m" => .ok { o with mode := argument }
    | _ => .ok o
  concluded name 1 <| withSettings (readOptions .mkdir name 1 t ({} : MkdirOptions) take seen) fun o =>
    if operands.isEmpty then (complainUsage t name (bytesOfText "missing operand"), 1)
    else
      match o.mode with
      | none => operands.foldl (makeOperand o name (maskMode 0o777 t.process.mask)) (t, 0)
      | some word =>
          match readMode? word with
          | none => (complain t name (bytesOfText "invalid mode " ++ inQuotes (bytesOf word)), 1)
          | some changes =>
              operands.foldl (makeOperand o name (adjustMode true t.process.mask changes 0o777)) (t, 0)

/-!
## Files and their moments
-/

/-- What the program for files is asked to do. -/
structure TouchOptions where
  makesNone : Bool := false
  access : Bool := false
  change : Bool := false
  date : Option (List Char) := none
  stamp : Option Int := none
  reference : Option Bytes := none
  followsNone : Bool := false
deriving Repr, Inhabited, DecidableEq

/-- Whether the moments of a node may be set. -/
def momentFault (n : Node) (given : Bool) : Option Errno :=
  if n.own then none
  else if given then some Errno.notPermitted
  else if n.allows .write then none
  else some Errno.denied

/-- Sets the moment of the last change of a node: to a given one, or to the present. -/
def setMoment (o : TouchOptions) (moment : Option Int) (t : Task) (id : NodeId) : Except Errno Task :=
  match (t.node? id).bind fun n => momentFault n moment.isSome with
  | some reason => .error reason
  | none =>
      if o.access && !o.change then .ok t
      else
        match moment with
        | none => .ok { t with disk := { t.disk with tree := t.disk.tree.stamp id } }
        | some value =>
            .ok { t with
              disk := { t.disk with tree := t.disk.tree.modify id fun n => { n with changed := value } } }

/-- Sets the moment of a path. -/
def setMomentAt (o : TouchOptions) (moment : Option Int) (t : Task) (path : Bytes) :
    Except Errno Task :=
  match if o.followsNone then t.lookAt path else t.resolve path with
  | .error reason => .error reason
  | .ok id => setMoment o moment t id

/-- Makes a file if it is missing; the reason tells why that was not possible. -/
def makeFile (o : TouchOptions) (t : Task) (path : Bytes) : Option Errno × Task :=
  if o.makesNone || o.followsNone then (none, t)
  else
    match t.openPath path { write := true, create := true, mode := 0o666 } with
    | .ok (_, t') => (none, t')
    | .error reason => (some reason, t)

/-- Notes that an operand has just been changed, or sets its moment. -/
def touchOperand (o : TouchOptions) (moment : Option Int) (name : Bytes) (soFar : Finished)
    (path : Bytes) : Finished :=
  let (t, status) := soFar
  if path = bytesOfText "-" then
    match t.nodeBehind 1 with
    | none =>
        if o.makesNone then soFar
        else
          (complain t name (because (bytesOfText "setting times of " ++ shellQuoted path)
            Errno.badDescriptor), 1)
    | some id =>
        match setMoment o moment t id with
        | .ok t' => (t', status)
        | .error reason =>
            (complain t name (because (bytesOfText "setting times of " ++ shellQuoted path) reason), 1)
  else
    let (unopened, made) := makeFile o t path
    match setMomentAt o moment made path with
    | .ok t' => (t', status)
    | .error reason =>
        match unopened.filter (· ≠ Errno.isDirectory) with
        | some first =>
            (complain made name (because (bytesOfText "cannot touch " ++ shellQuoted path) first), 1)
        | none =>
            if o.makesNone && reason = Errno.noEntry then (made, status)
            else
              (complain made name (because (bytesOfText "setting times of " ++ shellQuoted path)
                reason), 1)

/-- The options of the program for files. -/
def touchTable : OptionTable :=
  { letters := plainLetters "acfhm" ++ letterWithArgument "drt"
    names :=
      [⟨"time", "time", .required⟩, ⟨"no-create", "c", .none⟩, ⟨"date", "d", .required⟩,
        ⟨"reference", "r", .required⟩, ⟨"no-dereference", "h", .none⟩, ⟨"help", "help", .none⟩,
        ⟨"version", "version", .none⟩] }

/-- The words for the kinds of moments. -/
def momentWords : List (List String) :=
  [["atime", "access", "use"], ["mtime", "modify"]]

/-- Complains about a date. -/
def badDate (t : Task) (name : Bytes) (word : List Char) : Finished :=
  (complain t name (bytesOfText "invalid date format " ++ inQuotes (bytesOf word)), 1)

/-- Takes in an option of the program for files. -/
def TouchOptions.take (name : Bytes) (t : Task) (o : TouchOptions) (key : String)
    (argument : Option (List Char)) : Reading TouchOptions :=
  let word := argument.getD []
  match key with
  | "a" => .ok { o with access := true }
  | "c" => .ok { o with makesNone := true }
  | "d" => .ok { o with date := some word }
  | "h" => .ok { o with followsNone := true }
  | "m" => .ok { o with change := true }
  | "r" => .ok { o with reference := some (bytesOf word) }
  | "t" =>
      match readStamp? t.disk.tree.present word with
      | some moment => .ok { o with stamp := some moment }
      | none => .error (badDate t name word)
  | "time" =>
      (chooseValue t name word "--time" momentWords).map fun value =>
        if value = "atime" then { o with access := true } else { o with change := true }
  | _ => .ok o

/-- The moment that is to be set, if it is not the present one. -/
def TouchOptions.moment (name : Bytes) (t : Task) (o : TouchOptions) : Reading (Option Int) :=
  if o.stamp.isSome && (o.reference.isSome || o.date.isSome) then
    .error (complainUsage t name (bytesOfText "cannot specify times from more than one source"), 1)
  else
    let start : Reading (Option Int) :=
      match o.reference with
      | none => .ok o.stamp
      | some path =>
          match if o.followsNone then t.lookAt path else t.resolve path with
          | .ok id => .ok ((t.node? id).map (·.changed))
          | .error reason =>
              .error (complain t name
                (because (bytesOfText "failed to get attributes of " ++ shellQuoted path) reason), 1)
    match start, o.date with
    | .error finished, _ => .error finished
    | .ok moment, none => .ok moment
    | .ok moment, some word =>
        match readDate? (moment.getD t.disk.tree.present) word with
        | some found => .ok (some found)
        | none => .error (badDate t name word)

/-- Makes files that are missing and sets the moments of the others. -/
def runTouch (name : Bytes) (arguments : List Bytes) (t : Task) : Finished :=
  let (seen, operands) := scanWords touchTable t arguments
  let settings := readOptions .touch name 1 t ({} : TouchOptions) (TouchOptions.take name t) seen
  concluded name 1 <| withSettings settings fun o =>
    withSettings (o.moment name t) fun moment =>
      if operands.isEmpty then (complainUsage t name (bytesOfText "missing file operand"), 1)
      else operands.foldl (touchOperand o moment name) (t, 0)

end JobShell.Machine.Utility
