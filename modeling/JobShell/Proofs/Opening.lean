/-
Module: JobShell.Proofs.Opening
Purpose: What opening a file for a redirection does to the disk, and what saying something on a descriptor does
  to it.  Opening for input changes no file; opening for output empties the file that is there, or makes the one
  that is missing with the permission bits that the mask leaves; a text that is said goes to the ordinary file or
  the pipe behind its descriptor, and is lost anywhere else.
Main exports: ForInput, ForOutput, openPath_reading, openPath_writing, Tells, put_tells, Tells.lengthened
-/
import JobShell.Proofs.Creation
import JobShell.Machine.Task

namespace JobShell.Machine

open Text (Bytes)

/-! ### Opening -/

/-- How a path is opened for input: the node it leads to, and the tree then.  What the system tells about a
process is made up when it is asked for and has no name; everything else is there already. -/
inductive ForInput (t : Task) (path : Bytes) : NodeId → FileTree → Prop where
  | found {id : NodeId} {node : Node} (named : Task.statusNumber? path = none)
      (leads : t.resolve path = .ok id) (there : t.disk.tree.node? id = some node)
      (permitted : node.allows .read = true) : ForInput t path id t.disk.tree
  | madeUp {number : Nat} {text : String} (asked : Task.statusNumber? path = some number)
      (told : t.statusOf number = some text) :
      ForInput t path t.disk.tree.nodes.size
        (t.disk.tree.add { content := .file (bytesOfText text), mode := 0o444 }).2

/-- How a path is opened for output: the node it leads to, and the tree then. -/
inductive ForOutput (t : Task) (path : Bytes) (id : NodeId) (u : FileTree) : Prop where
  /-- What is there, and may be written to, keeps its permissions.  An ordinary file has nothing left in it;
  anything else stays as it is. -/
  | emptied {old : Node} (leads : t.resolve path = .ok id) (found : t.disk.tree.node? id = some old)
      (notDirectory : old.isDirectory = false) (permitted : old.allows .write = true)
      (size : u.nodes.size = t.disk.tree.nodes.size)
      (left : ∃ moment, u.node? id =
        some (if old.isFile then { old with content := .file [], changed := moment } else old))
      (others : ∀ other, other ≠ id → u.node? other = t.disk.tree.node? other)
  /-- What is missing is made in a directory that may be changed, and the path leads to it from then on. -/
  | created {directory : NodeId} {name : Bytes} {mode : Nat}
      (missing : t.resolve path = .error Errno.noEntry)
      (permitted : t.disk.tree.mayChange directory = true)
      (gains : t.disk.tree.Gains u directory name id { content := .file [], mode := mode })
      (bits : ∀ bit, mode.testBit bit = ((0o644 : Nat).testBit bit && !t.process.mask.testBit bit))
      (leads : ({ t with disk := { t.disk with tree := u } } : Task).resolve path = .ok id)

/-- A task with a tree of its own and one more open file. -/
def Task.withFile (t : Task) (u : FileTree) (file : OpenFile) : Task :=
  { t with disk := { tree := u, files := t.disk.files.push file } }

/-- What is opened is there and may be used that way, and a file is emptied by it if that is asked for. -/
theorem openNode_ok {d d' : Disk} {id : NodeId} {how : OpenMode} {file : FileId}
    (opened : d.openNode id how = .ok (file, d')) :
    ∃ old, d.tree.node? id = some old ∧ (how.read = true → old.allows .read = true) ∧
      (how.write = true → old.isDirectory = false ∧ old.allows .write = true) ∧ file = d.files.size ∧
      d' =
        { tree :=
            if how.truncate && old.isFile then (d.tree.stamp id).modify id Node.emptied else d.tree
          files := d.files.push
            { node := id, readable := how.read, writable := how.write, appending := how.append } } := by
  rw [Disk.openNode] at opened
  split at opened
  · cases opened
  · next old found =>
    split_ifs at opened with directory terminal unreadable unwritable
    all_goals
      obtain ⟨rfl, rfl⟩ := Prod.mk.inj (Except.ok.inj opened)
      refine ⟨old, found, ?_, ?_, rfl, ?_⟩
      · simpa using unreadable
      · intro writes
        simp only [writes, Bool.true_and] at directory unwritable
        exact ⟨by simpa using directory, by simpa using unwritable⟩
      · simp_all [Disk.addFile]

theorem openNode_reading {t : Task} {d' : Disk} {id : NodeId} {file : FileId}
    (opened : t.disk.openNode id OpenMode.reading = .ok (file, d')) :
    file = t.disk.files.size ∧
      (∃ node, t.disk.tree.node? id = some node ∧ node.allows .read = true) ∧
      ({ t with disk := d' } : Task) = t.withFile t.disk.tree { node := id, readable := true } := by
  obtain ⟨old, there, permitted, -, rfl, rfl⟩ := openNode_ok opened
  exact ⟨rfl, ⟨old, there, permitted rfl⟩, rfl⟩

theorem diskPath_reading {t : Task} {d' : Disk} {here mask : Nat} {path : Bytes} {file : FileId}
    (opened : t.disk.openPath here mask path OpenMode.reading = .ok (file, d')) :
    file = t.disk.files.size ∧ ∃ id, t.disk.tree.resolve here path = .ok id ∧
      (∃ node, t.disk.tree.node? id = some node ∧ node.allows .read = true) ∧
      ({ t with disk := d' } : Task) = t.withFile t.disk.tree { node := id, readable := true } := by
  rw [Disk.openPath, if_neg (by simp [OpenMode.reading])] at opened
  rw [FileTree.resolve]
  split at opened
  · cases opened
  · next id leads =>
    rw [if_neg (by simp [OpenMode.reading])] at opened
    obtain ⟨place, there, same⟩ := openNode_reading opened
    exact ⟨place, id, by rw [leads]; rfl, there, same⟩
  · next id leads =>
    obtain ⟨place, there, same⟩ := openNode_reading opened
    exact ⟨place, id, by rw [leads]; rfl, there, same⟩
  · rw [if_pos (by rfl)] at opened
    cases opened

theorem openNode_writing {t : Task} {d' : Disk} {id : NodeId} {file : FileId} {path : Bytes}
    (leads : t.resolve path = .ok id)
    (opened : t.disk.openNode id (OpenMode.writing 0o644) = .ok (file, d')) :
    file = t.disk.files.size ∧ ∃ id u, ForOutput t path id u ∧
      ({ t with disk := d' } : Task) = t.withFile u { node := id, writable := true } := by
  obtain ⟨old, found, -, writes, rfl, rfl⟩ := openNode_ok opened
  obtain ⟨notDirectory, permitted⟩ := writes rfl
  refine ⟨rfl, id, _, ?_, rfl⟩
  by_cases ordinary : old.isFile = true
  · refine .emptied leads found notDirectory permitted ?_ ⟨t.disk.tree.nextMoment, ?_⟩ ?_
    · simp [OpenMode.writing, ordinary]
    · have stays : Node.isFile { old with changed := t.disk.tree.nextMoment } = true := ordinary
      simp [OpenMode.writing, ordinary, found, Node.emptied, stays]
    · intro other differs
      simp [OpenMode.writing, ordinary, differs]
  · refine .emptied leads found notDirectory permitted ?_ ⟨t.disk.tree.nextMoment, ?_⟩ ?_
    · simp [ordinary]
    · simp [ordinary, found]
    · intro other differs
      simp [ordinary]

theorem diskPath_writing {t : Task} {d' : Disk} {path : Bytes} {file : FileId}
    (plainly : ∀ d : Disk, ({ t with disk := d } : Task).resolve path =
      d.tree.resolve t.process.directory path)
    (opened : t.disk.openPath t.process.directory t.process.mask path (OpenMode.writing 0o644) =
      .ok (file, d')) :
    file = t.disk.files.size ∧ ∃ id u, ForOutput t path id u ∧
      ({ t with disk := d' } : Task) = t.withFile u { node := id, writable := true } := by
  have leadsAs : t.resolve path = t.disk.tree.resolve t.process.directory path := plainly t.disk
  rw [FileTree.resolve] at leadsAs
  rw [Disk.openPath] at opened
  by_cases slash : FileTree.hasTrailingSlash path = true
  · rw [if_pos (by simp [OpenMode.writing, slash])] at opened
    cases opened
  · rw [if_neg (by simp [slash])] at opened
    split at opened
    · cases opened
    · rw [if_pos (by rfl)] at opened
      cases opened
    · next leads => exact openNode_writing (by rw [leadsAs, leads]; rfl) opened
    · next directory name leads =>
      rw [if_neg (by simp [OpenMode.writing])] at opened
      dsimp only at opened
      split at opened
      · cases opened
      · next id u made =>
        obtain ⟨rfl, rfl⟩ := Prod.mk.inj (Except.ok.inj opened)
        obtain ⟨isDirectory, free⟩ := FileTree.locate_entry leads
        have gains := FileTree.create_gains isDirectory free made
        refine ⟨rfl, id, u, ?_, rfl⟩
        apply ForOutput.created
        · rw [leadsAs, leads]
          rfl
        · exact FileTree.mayChange_of_create made
        · exact gains
        · exact maskMode_testBit (by decide) t.process.mask
        · rw [plainly]
          exact gains.resolve_eq rfl leads

/-- Opening for input changes no file. -/
theorem openPath_reading {t t' : Task} {path : Bytes} {file : FileId}
    (opened : t.openPath path OpenMode.reading = .ok (file, t')) :
    file = t.disk.files.size ∧
      ∃ id u, ForInput t path id u ∧ t' = t.withFile u { node := id, readable := true } := by
  rw [Task.openPath] at opened
  split at opened
  · next number asked =>
    rw [Task.openStatus, if_neg (by simp [OpenMode.reading])] at opened
    split at opened
    · cases opened
    · next text told =>
      obtain ⟨rfl, rfl⟩ := Prod.mk.inj (Except.ok.inj opened)
      exact ⟨rfl, _, _, .madeUp asked told, rfl⟩
  · next descriptor named asked =>
    rw [Task.openDescriptor] at opened
    split at opened
    · cases opened
    · next id behind =>
      split at opened
      · cases opened
      · next file' disk reached =>
        obtain ⟨rfl, rfl⟩ := Prod.mk.inj (Except.ok.inj opened)
        obtain ⟨place, ⟨node, there, permitted⟩, same⟩ := openNode_reading (t := t) reached
        refine ⟨place, id, _, .found named ?_ there permitted, same⟩
        simp only [Task.resolve, named, asked, behind]
  · next named plain =>
    split at opened
    · cases opened
    · next file' disk reached =>
      obtain ⟨rfl, rfl⟩ := Prod.mk.inj (Except.ok.inj opened)
      obtain ⟨place, id, leads, ⟨node, there, permitted⟩, same⟩ := diskPath_reading reached
      refine ⟨place, id, _, .found named ?_ there permitted, same⟩
      simp only [Task.resolve, named, plain, leads]

/-- Opening for output empties what is there or makes what is missing. -/
theorem openPath_writing {t t' : Task} {path : Bytes} {file : FileId}
    (opened : t.openPath path (OpenMode.writing 0o644) = .ok (file, t')) :
    file = t.disk.files.size ∧
      ∃ id u, ForOutput t path id u ∧ t' = t.withFile u { node := id, writable := true } := by
  rw [Task.openPath] at opened
  split at opened
  · rw [Task.openStatus, if_pos (by rfl)] at opened
    cases opened
  · next descriptor named asked =>
    rw [Task.openDescriptor] at opened
    split at opened
    · cases opened
    · next id behind =>
      split at opened
      · cases opened
      · next file' disk reached =>
        obtain ⟨rfl, rfl⟩ := Prod.mk.inj (Except.ok.inj opened)
        exact openNode_writing (by simp only [Task.resolve, named, asked, behind]) reached
  · next named plain =>
    split at opened
    · cases opened
    · next file' disk reached =>
      obtain ⟨rfl, rfl⟩ := Prod.mk.inj (Except.ok.inj opened)
      have plainly (d : Disk) : ({ t with disk := d } : Task).resolve path =
          d.tree.resolve t.process.directory path := by
        simp only [Task.resolve, named, plain]
      exact diskPath_writing plainly reached

/-! ### Saying something -/

/-- Where an open file is written. -/
def OpenFile.writtenAt (file : OpenFile) (held : Bytes) : Nat :=
  if file.appending then held.length else file.position

/-- An ordinary file after it has been written to. -/
def Node.rewritten (n : Node) (bytes : Bytes) (moment : Int) : Node :=
  { n with content := .file bytes, changed := moment }

/-- What is written to a descriptor goes to an open file that may be written to, and to the node behind it. -/
structure Task.WritesTo (t : Task) (descriptor : Nat) (id : FileId) (file : OpenFile) (node : Node) :
    Prop where
  stream : t.process.descriptors.file? descriptor = some id
  opened : t.disk.file? id = some file
  writable : file.writable = true
  behind : t.disk.tree.node? file.node = some node

/-- Nothing takes what is written to a descriptor: it is closed or may not be written to, or behind it is neither
an ordinary file nor a pipe that somebody reads. -/
def Task.IsMute (t : Task) (descriptor : Nat) : Prop :=
  ∀ id file node, t.WritesTo descriptor id file node →
    (∀ held, node.content ≠ .file held) ∧
      ∀ held, node.content = .pipe held → t.isRead file.node = false

/-- One node of a tree has become another one.  Every other one is as it was, and none has come or gone. -/
structure FileTree.Replaces (t u : FileTree) (place : NodeId) (new : Node) : Prop where
  size : u.nodes.size = t.nodes.size
  there : u.node? place = some new
  others : ∀ other, other ≠ place → u.node? other = t.node? other

/-- A task has said a text on a descriptor, and that is all that has happened. -/
inductive Tells (t : Task) (descriptor : Nat) (text : String) : Task → Prop where
  /-- An ordinary file holds the text from where it is written on, and goes on behind it. -/
  | file {id : FileId} {file : OpenFile} {old : Node} {held : Bytes} {d : Disk}
      (writes : t.WritesTo descriptor id file old) (content : old.content = .file held)
      (holds : t.disk.tree.Replaces d.tree file.node
        (old.rewritten (Disk.overwrite held (file.writtenAt held) (bytesOfText text)) t.disk.tree.nextMoment))
      (goesOn : d.files = t.disk.files.modify id fun f =>
        { f with position := file.writtenAt held + (bytesOfText text).length }) :
      Tells t descriptor text { t with disk := d }
  /-- A pipe that somebody reads holds the text behind what it held. -/
  | pipe {id : FileId} {file : OpenFile} {old : Node} {held : Bytes} {u : FileTree}
      (writes : t.WritesTo descriptor id file old) (content : old.content = .pipe held)
      (isRead : t.isRead file.node = true)
      (holds : t.disk.tree.Replaces u file.node { old with content := .pipe (held ++ bytesOfText text) }) :
      Tells t descriptor text { t with disk := { t.disk with tree := u } }
  /-- Nothing takes the text, and nothing happens. -/
  | lost (mute : t.IsMute descriptor) : Tells t descriptor text t

namespace Task.WritesTo

variable {t : Task} {descriptor : Nat} {id : FileId} {file : OpenFile} {node : Node}

theorem nodeBehind_eq (writes : t.WritesTo descriptor id file node) :
    t.nodeBehind descriptor = some file.node := by
  simp [Task.nodeBehind, writes.stream, writes.opened]

/-- What is written goes to the disk, unless it is written to a pipe that has lost its readers. -/
theorem put_eq (writes : t.WritesTo descriptor id file node) {bytes : Bytes} (something : bytes ≠ [])
    (whole : t.isBroken file.node = false) :
    t.put descriptor bytes = { t with disk := (t.disk.write id bytes).2 } := by
  simp [Task.put, Task.write, writes.stream, writes.nodeBehind_eq, something, whole]

/-- It goes to one place only. -/
theorem unique (writes : t.WritesTo descriptor id file node) {id' : FileId} {file' : OpenFile} {node' : Node}
    (goes : t.WritesTo descriptor id' file' node') : id = id' ∧ file = file' ∧ node = node' := by
  obtain rfl := Option.some.inj (writes.stream.symm.trans goes.stream)
  obtain rfl := Option.some.inj (writes.opened.symm.trans goes.opened)
  obtain rfl := Option.some.inj (writes.behind.symm.trans goes.behind)
  exact ⟨rfl, rfl, rfl⟩

theorem isMute (writes : t.WritesTo descriptor id file node) (notFile : ∀ held, node.content ≠ .file held)
    (unread : ∀ held, node.content = .pipe held → t.isRead file.node = false) : t.IsMute descriptor := by
  intro id' file' node' goes
  obtain ⟨rfl, rfl, rfl⟩ := writes.unique goes
  exact ⟨notFile, unread⟩

end Task.WritesTo

/-- Writing to an ordinary file. -/
theorem write_file {d : Disk} {id : FileId} {file : OpenFile} {old : Node} {held : Bytes}
    (opened : d.file? id = some file) (writable : file.writable = true)
    (behind : d.tree.node? file.node = some old) (content : old.content = .file held) (bytes : Bytes) :
    d.tree.Replaces (d.write id bytes).2.tree file.node
        (old.rewritten (Disk.overwrite held (file.writtenAt held) bytes) d.tree.nextMoment) ∧
      (d.write id bytes).2.files = d.files.modify id fun f =>
        { f with position := file.writtenAt held + bytes.length } := by
  obtain ⟨_, mode, own, changed⟩ := old
  obtain rfl : _ = Content.file held := content
  have position : (if file.appending = true then held.length else file.position) =
      file.writtenAt held := rfl
  simp only [Disk.write, opened, writable, behind, Bool.not_true, Bool.false_eq_true, if_false, position]
  refine ⟨⟨by simp, ?_, ?_⟩, trivial⟩
  · simp [behind, Node.rewritten]
  · intro other differs
    simp [differs]

/-- Writing to a pipe. -/
theorem write_pipe {d : Disk} {id : FileId} {file : OpenFile} {old : Node} {held : Bytes}
    (opened : d.file? id = some file) (writable : file.writable = true)
    (behind : d.tree.node? file.node = some old) (content : old.content = .pipe held) (bytes : Bytes) :
    ∃ u, d.tree.Replaces u file.node { old with content := .pipe (held ++ bytes) } ∧
      (d.write id bytes).2 = { d with tree := u } := by
  obtain ⟨_, mode, own, changed⟩ := old
  obtain rfl : _ = Content.pipe held := content
  simp only [Disk.write, opened, writable, behind, Bool.not_true, Bool.false_eq_true, if_false]
  refine ⟨_, ⟨?_, ?_, ?_⟩, rfl⟩
  · simp
  · simp [behind]
  · intro other differs
    simp [differs]

namespace Task.IsMute

variable {t : Task} {descriptor : Nat}

/-- Where nothing takes them, bytes that are handed to the disk leave it as it is. -/
theorem write_eq (mute : t.IsMute descriptor) {id : FileId}
    (stream : t.process.descriptors.file? descriptor = some id)
    (whole : (t.nodeBehind descriptor).any t.isBroken = false) (bytes : Bytes) :
    (t.disk.write id bytes).2 = t.disk := by
  rw [Disk.write]
  split
  · rfl
  · next file opened =>
    by_cases closed : (!file.writable) = true
    · rw [if_pos closed]
    · rw [if_neg closed]
      have writes {node : Node} (behind : t.disk.tree.node? file.node = some node) :
          t.WritesTo descriptor id file node :=
        ⟨stream, opened, by simpa using closed, behind⟩
      split
      · next held mode own changed behind => exact absurd rfl ((mute _ _ _ (writes behind)).1 held)
      · next held mode own changed behind =>
        -- A pipe that nobody reads is broken, and what is meant for it does not get here.
        have unread := (mute _ _ _ (writes behind)).2 held rfl
        simp [(writes behind).nodeBehind_eq, Task.isBroken, behind, Node.isPipe, unread] at whole
      · rfl
      · rfl

/-- Where nothing takes them, bytes can be written and nothing happens. -/
theorem put_eq (mute : t.IsMute descriptor) (bytes : Bytes) : t.put descriptor bytes = t := by
  rw [Task.put, Task.write]
  split
  · rfl
  · next id stream =>
    split_ifs with nothing broken
    · rfl
    · rfl
    · simp [mute.write_eq stream (by simpa using broken) bytes]

end Task.IsMute

theorem length_toList_loop (bytes : ByteArray) (i : Nat) (r : Bytes) :
    (ByteArray.toList.loop bytes i r).length = bytes.size - i + r.length := by
  fun_induction ByteArray.toList.loop bytes i r with
  | case1 i r inside ih =>
      rw [ih, List.length_cons]
      omega
  | case2 i r outside =>
      rw [List.length_reverse]
      omega

theorem bytesOfText_ne_nil {text : String} (something : text ≠ "") : bytesOfText text ≠ [] := by
  intro nothing
  have size : (bytesOfText text).length = text.utf8ByteSize := by
    rw [bytesOfText, Text.Utf8.encode, ByteArray.toList, length_toList_loop]
    simp
  rw [nothing, List.length_nil] at size
  exact something (String.utf8ByteSize_eq_zero_iff.1 size.symm)

/-- Whatever is said where, that is all that happens. -/
theorem put_tells (t : Task) (descriptor : Nat) {text : String} (something : text ≠ "") :
    Tells t descriptor text (t.put descriptor (bytesOfText text)) := by
  have lost (mute : t.IsMute descriptor) : Tells t descriptor text (t.put descriptor (bytesOfText text)) := by
    rw [mute.put_eq]
    exact .lost mute
  by_cases there : ∃ id file node, t.WritesTo descriptor id file node
  · obtain ⟨id, file, node, writes⟩ := there
    cases content : node.content with
    | file held =>
        have whole : t.isBroken file.node = false := by
          simp [Task.isBroken, writes.behind, Node.isPipe, content]
        obtain ⟨holds, goesOn⟩ :=
          write_file writes.opened writes.writable writes.behind content (bytesOfText text)
        rw [writes.put_eq (bytesOfText_ne_nil something) whole]
        exact .file writes content holds goesOn
    | pipe held =>
        cases isRead : t.isRead file.node with
        | true =>
            have whole : t.isBroken file.node = false := by simp [Task.isBroken, isRead]
            obtain ⟨u, holds, same⟩ :=
              write_pipe writes.opened writes.writable writes.behind content (bytesOfText text)
            rw [writes.put_eq (bytesOfText_ne_nil something) whole, same]
            exact .pipe writes content isRead holds
        | false => exact lost (writes.isMute (by simp [content]) fun _ _ => isRead)
    | directory | link | program | device => exact lost (writes.isMute (by simp [content]) (by simp [content]))
  · exact lost fun id file node writes => absurd ⟨id, file, node, writes⟩ there

namespace Tells

variable {t t' : Task} {descriptor : Nat} {text : String} {id : FileId} {file : OpenFile} {node : Node}
  {held : Bytes}

/-- An ordinary file holds the text from where it is written on. -/
theorem written (tells : Tells t descriptor text t') (writes : t.WritesTo descriptor id file node)
    (content : node.content = .file held) :
    (t'.disk.tree.node? file.node).map (·.content) =
      some (.file (Disk.overwrite held (file.writtenAt held) (bytesOfText text))) := by
  cases tells with
  | file goes ordinary holds =>
      obtain ⟨rfl, rfl, rfl⟩ := writes.unique goes
      obtain rfl := Content.file.inj (content.symm.trans ordinary)
      rw [holds.there]
      rfl
  | pipe goes isPipe =>
      obtain ⟨rfl, rfl, rfl⟩ := writes.unique goes
      rw [content] at isPipe
      cases isPipe
  | lost mute => exact absurd content ((mute id file node writes).1 held)

/-- An ordinary file that is written at its end holds the text after what it held. -/
theorem appended (tells : Tells t descriptor text t') (writes : t.WritesTo descriptor id file node)
    (content : node.content = .file held) (atEnd : file.writtenAt held = held.length) :
    (t'.disk.tree.node? file.node).map (·.content) = some (.file (held ++ bytesOfText text)) := by
  rw [tells.written writes content, atEnd]
  simp [Disk.overwrite]

end Tells

/-- A node that may have been written to: its permissions stay, and what it holds has not got shorter. -/
structure Node.Lengthened (old new : Node) : Prop where
  mode : new.mode = old.mode
  own : new.own = old.own
  content : (∃ held more, old.content = .file held ∧ new.content = .file more ∧
      held.length ≤ more.length) ∨
    ∃ held more, old.content = .pipe held ∧ new.content = .pipe (held ++ more)

/-- No file has been made, emptied or given another name, no permission has changed, and no node but one is
touched, which has not got shorter. -/
structure Disk.Lengthened (d : Disk) (place : Option NodeId) (d' : Disk) : Prop where
  files : d'.files.size = d.files.size
  size : d'.tree.nodes.size = d.tree.nodes.size
  nodes : ∀ id old, d.tree.node? id = some old →
    ∃ new, d'.tree.node? id = some new ∧ (new = old ∨ place = some id ∧ old.Lengthened new)

theorem Disk.Lengthened.refl (d : Disk) (place : Option NodeId) : d.Lengthened place d := by
  constructor
  · rfl
  · rfl
  · intro id old found
    exact ⟨old, found, .inl rfl⟩

theorem Disk.Lengthened.of_replaces {d d' : Disk} {place : NodeId} {old new : Node}
    (files : d'.files.size = d.files.size) (holds : d.tree.Replaces d'.tree place new)
    (before : d.tree.node? place = some old) (longer : old.Lengthened new) :
    d.Lengthened (some place) d' := by
  refine ⟨files, holds.size, fun id node found => ?_⟩
  by_cases touched : id = place
  · subst touched
    obtain rfl := Option.some.inj (before.symm.trans found)
    exact ⟨new, holds.there, .inr ⟨rfl, longer⟩⟩
  · exact ⟨node, by rw [holds.others id touched, found], .inl rfl⟩

theorem length_overwrite (old new : Bytes) (position : Nat) :
    old.length ≤ (Disk.overwrite old position new).length := by
  simp only [Disk.overwrite, List.length_append, List.length_take, List.length_replicate,
    List.length_drop]
  omega

namespace Tells

variable {t t' : Task} {descriptor : Nat} {text : String}

theorem process_eq (tells : Tells t descriptor text t') : t'.process = t.process := by
  cases tells <;> rfl

/-- What is said makes nothing shorter, and touches one node at most. -/
theorem lengthened (tells : Tells t descriptor text t') : ∃ place, t.disk.Lengthened place t'.disk := by
  cases tells with
  | file writes content holds goesOn =>
      refine ⟨_, .of_replaces (by simp [goesOn]) holds writes.behind ⟨rfl, rfl, ?_⟩⟩
      exact .inl ⟨_, _, content, rfl, length_overwrite _ _ _⟩
  | pipe writes content isRead holds =>
      refine ⟨_, .of_replaces rfl holds writes.behind ⟨rfl, rfl, ?_⟩⟩
      exact .inr ⟨_, _, content, rfl⟩
  | lost => exact ⟨none, .refl _ _⟩

end Tells

end JobShell.Machine
