/-
Module: JobShell.Machine.Script.Redirection
Purpose: Redirections: working out what they name, opening it, and what is said when that fails.
Main exports: openingsOf, Scene.redirect, Scene.supply
-/
import JobShell.Machine.Script.Expansion
import JobShell.Machine.Script.Scene

namespace JobShell.Machine.Script

/-!
## What redirections name
-/

/-- The descriptor that a redirection is to be copied from; a dash stands for none at all. -/
def sourceOf (text : List Char) : Expanding (Option Nat) :=
  match text with
  | ['-'] => pure none
  | [c] => if c.isDigit then pure (some (c.toNat - 48)) else Expanding.misread "Bad fd number"
  | _ => Expanding.misread "Bad fd number"

/-- Works out what redirections name.  Texts are left as they are until they are needed. -/
def openingsOf : List Redirect → Expanding (List Opening)
  | [] => pure []
  | redirect :: rest => do
      let opening ← match redirect with
        | .file descriptor use path => do
            let text ← expandText path
            pure (Opening.file descriptor use text)
        | .copy descriptor source => do
            let text ← expandText source
            let origin ← sourceOf text
            pure (Opening.copy descriptor origin)
        | .document descriptor expands place => do
            let s ← Expanding.state
            pure (Opening.document descriptor expands (s.documents.getD place []))
      let more ← openingsOf rest
      return opening :: more

/-!
## Opening
-/

/-- How a file is opened. -/
def openModeFor : FileUse → OpenMode
  | .read => OpenMode.reading
  | .readWrite => { read := true, write := true, create := true, mode := 0o666 }
  | .write | .overwrite => OpenMode.writing 0o666
  | .append => OpenMode.appending 0o666

/-- What is said of a file that cannot be opened. -/
def openComplaint (use : FileUse) (path : List Char) (reason : Errno) : List Char :=
  match use with
  | .read => "cannot open ".toList ++ path ++ ": ".toList ++ reasonFor reason "No such file"
  | _ => "cannot create ".toList ++ path ++ ": ".toList ++ reasonFor reason "Directory nonexistent"

/-- Opens a file in some way, with a complaint as for a use of it. -/
def openAs (t : Task) (use : FileUse) (how : OpenMode) (path : List Char) :
    Except (List Char) (FileId × Task) :=
  match t.openPath (bytesOf path) how with
  | .ok result => .ok result
  | .error reason => .error (openComplaint use path reason)

/-- Opens a file for writing when files are not to be written over: an ordinary file that is there is
refused, and so is a link that leads nowhere. -/
def openGuarded (t : Task) (path : List Char) : Except (List Char) (FileId × Task) :=
  let taken := openComplaint .write path Errno.nameTaken
  match t.resolve (bytesOf path) with
  | .ok id =>
      if (t.node? id).any (·.isFile) then .error taken else openAs t .read { write := true } path
  | .error _ =>
      match t.lookAt (bytesOf path) with
      | .ok _ => .error taken
      | .error _ => openAs t .write (openModeFor .write) path

/-- Opens a file for a redirection. -/
def openFile (t : Task) (guards : Bool) (use : FileUse) (path : List Char) :
    Except (List Char) (FileId × Task) :=
  if guards && use = .write then openGuarded t path else openAs t use (openModeFor use) path

namespace Scene

/-- Notes what a descriptor refers to, to be put back later; only the first change of it counts. -/
def save (scene : Scene) (descriptor : Nat) : Scene :=
  match scene.state.saved with
  | [] => scene
  | top :: rest =>
      if top.any (·.1 == descriptor) then scene
      else
        let entry := (descriptor, scene.task.process.descriptors.file? descriptor)
        scene.modifyState fun s => { s with saved := (entry :: top) :: rest }

/-- Makes a descriptor refer to an open file, or to none. -/
def assign (scene : Scene) (descriptor : Nat) (file : Option FileId) : Scene :=
  let descriptors := scene.task.process.descriptors.assign descriptor file
  { scene with task := scene.task.setDescriptors descriptors }

/-- Makes a descriptor read a text. -/
def supply (scene : Scene) (descriptor : Nat) (text : List Char) : Scene :=
  let (node, tree) :=
    scene.task.disk.tree.add { content := .pipe (bytesOf text), mode := 0o600 }
  let (file, disk) :=
    ({ scene.task.disk with tree := tree } : Disk).addFile { node := node, readable := true }
  ({ scene with task := { scene.task with disk := disk } }.save descriptor).assign descriptor
    (some file)

/-- Goes on after a redirection that failed. -/
def refuseRedirect (scene : Scene) (text : List Char) (failure : List Frame) : Scene :=
  ((scene.complain text).withStatus 2).push failure

/-- Carries out redirections, then goes on with frames. -/
def redirect (success failure : List Frame) : List Opening → Scene → Scene
  | [], scene => scene.push success
  | opening :: rest, scene =>
      match opening with
      | .document descriptor expands text =>
          let later := scene.push [.redirect rest success failure]
          if expands then
            later.work do
              let chars ← expandDocument text
              return [.supply descriptor chars]
          else redirect success failure rest (scene.supply descriptor (unquoted text))
      | .copy descriptor none =>
          redirect success failure rest ((scene.save descriptor).assign descriptor none)
      | .copy descriptor (some source) =>
          if source = descriptor then redirect success failure rest scene
          else
            let saved := scene.save descriptor
            match scene.task.process.descriptors.file? source with
            | some file => redirect success failure rest (saved.assign descriptor (some file))
            | none =>
                (saved.assign descriptor none).refuseRedirect
                  ((toString source).toList ++ ": Bad file descriptor".toList) failure
      | .file descriptor use path =>
          match openFile scene.task (scene.state.has .noclobber) use path with
          | .error text => scene.refuseRedirect text failure
          | .ok (file, task) =>
              redirect success failure rest
                (({ scene with task := task }.save descriptor).assign descriptor (some file))

end Scene

end JobShell.Machine.Script
