/-
Module: JobShell.Proofs.ChildSetUp
Purpose: The course of a child of the shell from its fork to its program.  The input is opened before the
  output; what cannot be opened is said on the inherited standard output, and a program that cannot be run on
  the standard error.  A descriptor that is not redirected is as the shell left it, and the process of the
  shell is not disturbed.
Main exports: Redirected, StreamReady, Wired, Course, Spares, setUp_course
-/
import JobShell.Proofs.Launching
import JobShell.Proofs.Opening
import JobShell.Proofs.Retention
import JobShell.Proofs.SettingUp

namespace JobShell.Machine

open Text (Bytes)

/-! ### Redirections -/

namespace Descriptors

/-- A new open file is moved to a number of its own: the number refers to the file, and every other one to
what it referred to, whichever numbers were free. -/
theorem file?_moved (ds : Descriptors) (file : FileId) (target other : Nat) :
    let moved := (ds.assign ds.lowestFree (some file)).duplicate ds.lowestFree target
    (if ds.lowestFree = target then moved else moved.close ds.lowestFree).file? other =
      if other = target then some file else ds.file? other := by
  dsimp only
  by_cases low : ds.lowestFree = target
  · -- The lowest free number is the one that is wanted, and stays open.
    rw [if_pos low, duplicate, if_pos low, file?_assign, low]
  · rw [if_neg low, duplicate, if_neg low, close, file?_assign, file?_assign, file?_assign, file?_assign,
      if_pos rfl]
    by_cases here : other = ds.lowestFree
    · rw [if_pos here, if_neg (here ▸ low), here, file?_lowestFree]
    · rw [if_neg here, if_neg here]

end Descriptors

/-- A redirection has been carried out: one more file is open, the stream refers to it, every other descriptor
refers to what it referred to, and nothing else about the process has changed. -/
structure Redirected (t : Task) (target : Nat) (u : FileTree) (file : OpenFile) (t' : Task) : Prop where
  streams : ∀ number, t'.process.descriptors.file? number =
    if number = target then some t.disk.files.size else t.process.descriptors.file? number
  rest : t' = (t.withFile u file).setDescriptors t'.process.descriptors

/-- What opening a file makes of a redirection. -/
theorem redirect_eq {t : Task} {r : Redirection} {u : FileTree} {file : OpenFile}
    (reached : t.openPath (bytesOfText r.path) (openModeOf r.direction) =
      .ok (t.disk.files.size, t.withFile u file)) :
    ∃ t', redirect t r = .ok t' ∧ Redirected t (descriptorOf r.direction) u file t' := by
  rw [redirect, reached]
  refine ⟨_, rfl, fun number => ?_, rfl⟩
  exact Descriptors.file?_moved t.process.descriptors t.disk.files.size _ number

/-- How a path is opened for a redirection. -/
def Finds : Direction → Task → Bytes → NodeId → FileTree → Prop
  | .input => ForInput
  | .output => ForOutput

/-- The open file of a redirection, at its start. -/
def openFileOf : Direction → NodeId → OpenFile
  | .input, id => { node := id, readable := true }
  | .output, id => { node := id, writable := true }

/-- A stream after its redirection, if one is asked for: the path could be opened. -/
inductive StreamReady (direction : Direction) (t : Task) : Option String → Task → Prop where
  | inherited : StreamReady direction t none t
  | opened {path : String} {id : NodeId} {u : FileTree} {t' : Task}
      (reached : t.openPath (bytesOfText path) (openModeOf direction) =
        .ok (t.disk.files.size, t.withFile u (openFileOf direction id)))
      (found : Finds direction t (bytesOfText path) id u)
      (redirected : Redirected t (descriptorOf direction) u (openFileOf direction id) t') :
      StreamReady direction t (some path) t'

theorem openPath_finds {direction : Direction} {t t' : Task} {path : Bytes} {file : FileId}
    (opened : t.openPath path (openModeOf direction) = .ok (file, t')) :
    file = t.disk.files.size ∧
      ∃ id u, Finds direction t path id u ∧ t' = t.withFile u (openFileOf direction id) := by
  cases direction with
  | input => exact openPath_reading opened
  | output => exact openPath_writing opened

/-- A redirection is refused where its path cannot be opened, and carried out everywhere else. -/
theorem redirect_cases (t : Task) (direction : Direction) (path : String) :
    (∃ reason, t.openPath (bytesOfText path) (openModeOf direction) = .error reason ∧
      redirect t ⟨direction, path⟩ = .error reason) ∨
    ∃ t', redirect t ⟨direction, path⟩ = .ok t' ∧ StreamReady direction t (some path) t' := by
  cases reached : t.openPath (bytesOfText path) (openModeOf direction) with
  | error reason => exact .inl ⟨reason, rfl, by rw [redirect, reached]⟩
  | ok result =>
      obtain ⟨file, opened⟩ := result
      obtain ⟨rfl, id, u, found, rfl⟩ := openPath_finds reached
      obtain ⟨t', done, redirected⟩ := redirect_eq (r := ⟨direction, path⟩) reached
      exact .inr ⟨t', done, .opened reached found redirected⟩

namespace StreamReady

variable {direction : Direction} {t t' : Task} {asked : Option String}

theorem streams (ready : StreamReady direction t asked t') (number : Nat) :
    t'.process.descriptors.file? number =
      if number = descriptorOf direction ∧ asked.isSome then some t.disk.files.size
      else t.process.descriptors.file? number := by
  cases ready with
  | inherited => simp
  | opened reached found redirected => simpa using redirected.streams number

theorem process (ready : StreamReady direction t asked t') :
    t'.process = { t.process with descriptors := t'.process.descriptors } := by
  cases ready with
  | inherited => rfl
  | opened reached found redirected =>
      rw [redirected.rest]
      rfl

/-- The stream refers to an open file of its own, at its start, on what the path was found to lead to. -/
theorem file {path : String} (ready : StreamReady direction t (some path) t') :
    ∃ id u, Finds direction t (bytesOfText path) id u ∧ t'.disk.tree = u ∧
      t'.disk.file? t.disk.files.size = some (openFileOf direction id) := by
  cases ready with
  | opened reached found redirected =>
      refine ⟨_, _, found, ?_, ?_⟩
      · rw [redirected.rest]
        rfl
      · rw [redirected.rest]
        exact Array.getElem?_push_size

/-- The files that were open are still open, each where it was. -/
theorem files (ready : StreamReady direction t asked t') {id : FileId} {file : OpenFile}
    (opened : t.disk.file? id = some file) : t'.disk.file? id = some file := by
  cases ready with
  | inherited => exact opened
  | opened reached found redirected =>
      have below : id < t.disk.files.size := (Array.getElem?_eq_some_iff.mp opened).1
      rw [redirected.rest]
      exact (Array.getElem?_push_lt below).trans (Array.getElem?_eq_getElem below ▸ opened)

end StreamReady

/-- Where a program started by a command reads from, if not from what the shell reads: a background command
that redirects nothing reads from the null device. -/
def inputOf (c : Command) (background : Bool) : Option String :=
  if c.input.isNone && c.output.isNone && background then some LaunchPlan.nullDevice else c.input

/-- The input comes first, whatever the order on the line. -/
theorem redirectionsOf_eq (c : Command) (background : Bool) :
    LaunchPlan.redirectionsOf c background =
      ((inputOf c background).map (Redirection.mk .input)).toList ++
        (c.output.map (Redirection.mk .output)).toList := by
  rw [LaunchPlan.redirectionsOf, inputOf]
  cases c.input <;> cases c.output <;> cases background <;> rfl

/-- Both streams are as a command asks, and every other descriptor is as it was inherited. -/
structure Wired (c : Command) (background : Bool) (t fed ready : Task) : Prop where
  input : StreamReady .input t (inputOf c background) fed
  output : StreamReady .output fed c.output ready
  /-- Descriptor 0 refers to a file of its own exactly if there is an input. -/
  reads : ready.process.descriptors.file? 0 =
    if (inputOf c background).isSome then some t.disk.files.size else t.process.descriptors.file? 0
  inputFile : ∀ path, inputOf c background = some path →
    ∃ id u, ForInput t (bytesOfText path) id u ∧
      ready.disk.file? t.disk.files.size = some { node := id, readable := true }
  /-- Descriptor 1 refers to a file of its own exactly if there is an output. -/
  writes : ready.process.descriptors.file? 1 =
    if c.output.isSome then some fed.disk.files.size else t.process.descriptors.file? 1
  outputFile : ∀ path, c.output = some path →
    ∃ id u, ForOutput fed (bytesOfText path) id u ∧ ready.disk.tree = u ∧
      ready.disk.file? fed.disk.files.size = some { node := id, writable := true }
  others : ∀ number, number ≠ 0 → number ≠ 1 →
    ready.process.descriptors.file? number = t.process.descriptors.file? number
  /-- An inherited open file is where it was. -/
  files : ∀ id file, t.disk.file? id = some file → ready.disk.file? id = some file
  process : ready.process = { t.process with descriptors := ready.process.descriptors }

/-- Two redirections, one after the other, keep out of each other's way. -/
theorem Wired.of_stages {c : Command} {background : Bool} {t fed ready : Task}
    (input : StreamReady .input t (inputOf c background) fed)
    (output : StreamReady .output fed c.output ready) : Wired c background t fed ready where
  input := input
  output := output
  reads := by
    rw [output.streams, input.streams]
    simp [descriptorOf]
  inputFile path asked := by
    rw [asked] at input
    obtain ⟨id, u, found, -, opened⟩ := input.file
    exact ⟨id, u, found, output.files opened⟩
  writes := by
    rw [output.streams, input.streams]
    simp [descriptorOf]
  outputFile path asked := by
    rw [asked] at output
    exact output.file
  others number notInput notOutput := by
    rw [output.streams, input.streams]
    simp [descriptorOf, notInput, notOutput]
  files id file opened := output.files (input.files opened)
  process := by
    rw [output.process, input.process]

/-! ### The course of a child -/

/-- What becomes of a child of the shell that is set up for a command. -/
inductive Course (c : Command) (background : Bool) (t : Task) : Task → Prop where
  /-- The input cannot be opened.  Nothing has been done about the output. -/
  | noInput {path : String} {reason : Errno} {said : Task}
      (asked : inputOf c background = some path)
      (refused : t.openPath (bytesOfText path) OpenMode.reading = .error reason)
      (told : Tells t 1 ("cannot open " ++ path ++ " for input\n") said) :
      Course c background t (said.exit 1)
  /-- The output cannot be opened.  The standard output is still the inherited one. -/
  | noOutput {fed said : Task} {path : String} {reason : Errno}
      (input : StreamReady .input t (inputOf c background) fed)
      (asked : c.output = some path)
      (refused : fed.openPath (bytesOfText path) (OpenMode.writing 0o644) = .error reason)
      (stdout : fed.process.descriptors.file? 1 = t.process.descriptors.file? 1)
      (told : Tells fed 1 ("cannot open " ++ path ++ " for output\n") said) :
      Course c background t (said.exit 1)
  /-- The program cannot be run, after the output has been made or emptied. -/
  | notRun {fed ready said : Task} {program : String} {reason : Errno}
      (wired : Wired c background t fed ready) (named : c.argv.head? = some program)
      (failed : searchExec ready.disk.tree ready.process (c.argv.map bytesOfText) = .error reason)
      (told : Tells ready 2 (program ++ ": " ++ reason.brief ++ "\n") said) :
      Course c background t (said.exit 1)
  /-- The program is run with the words of the command as they are. -/
  | runs {fed ready : Task} {program : String} {path : Bytes} {q : Process}
      (wired : Wired c background t fed ready) (named : c.argv.head? = some program)
      (found : searchExec ready.disk.tree ready.process (c.argv.map bytesOfText) = .ok q)
      (tried : path ∈ candidates ready.process (bytesOfText program))
      (becomes : Becomes ready.disk.tree ready.process path (c.argv.map bytesOfText) q) :
      Course c background t { ready with process := q }

/-- One stream is redirected before the rest, or the rest is not looked at. -/
theorem redirectAll_stream (t : Task) (direction : Direction) (asked : Option String)
    (rest : List Redirection) :
    (∃ path reason, asked = some path ∧
      t.openPath (bytesOfText path) (openModeOf direction) = .error reason ∧
      redirectAll t ((asked.map (Redirection.mk direction)).toList ++ rest) =
        .error (t.out (bytesOfText (openFailure ⟨direction, path⟩)))) ∨
    ∃ t', StreamReady direction t asked t' ∧
      redirectAll t ((asked.map (Redirection.mk direction)).toList ++ rest) = redirectAll t' rest := by
  cases asked with
  | none => exact .inr ⟨t, .inherited, rfl⟩
  | some path =>
      simp only [Option.map_some, Option.toList_some, List.singleton_append, redirectAll]
      rcases redirect_cases t direction path with ⟨reason, refused, failed⟩ | ⟨t', done, ready⟩
      · exact .inl ⟨path, reason, rfl, refused, by rw [failed]⟩
      · exact .inr ⟨t', ready, by rw [done]⟩

/-- With its streams as they are asked for, a child becomes its program or says that it cannot. -/
theorem course_of_wired {c : Command} {background : Bool} {t fed ready : Task} {program : String}
    {others : List String} (words : c.argv = program :: others)
    (wired : Wired c background t fed ready) :
    Course c background t
      (match searchExec ready.disk.tree ready.process (c.argv.map bytesOfText) with
        | .ok p => { ready with process := p }
        | .error reason =>
            (ready.err (bytesOfText (execFailure (c.argv.headD "") reason))).exit 1) := by
  have named : c.argv.head? = some program := by rw [words, List.head?_cons]
  cases searched : searchExec ready.disk.tree ready.process (c.argv.map bytesOfText) with
  | error reason =>
      refine .notRun wired named searched ?_
      rw [words]
      exact put_tells ready 2 (by simp)
  | ok q =>
      have image := searched
      rw [words, List.map_cons] at image
      obtain ⟨path, tried, becomes⟩ := searchExec_image image
      refine .runs wired named searched tried ?_
      rw [words, List.map_cons]
      exact becomes

/-- A child of the shell takes one of the four courses. -/
theorem setUp_takes {c : Command} {background : Bool} {plan : LaunchPlan}
    (planned : LaunchPlan.ofCommand c background = .ok plan) (t : Task) :
    Course c background (t.prepared (!background)) (setUp t plan) := by
  obtain ⟨program, others, words, rfl⟩ := LaunchPlan.ofCommand_ok planned
  rw [setUp]
  dsimp only
  rw [redirectionsOf_eq]
  rcases redirectAll_stream (t.prepared (!background)) .input (inputOf c background)
      (c.output.map (Redirection.mk .output)).toList with
    ⟨path, reason, asked, refused, said⟩ | ⟨fed, input, onward⟩
  · rw [said]
    exact .noInput asked refused (put_tells _ 1 (by simp))
  · rw [onward]
    have last := redirectAll_stream fed .output c.output []
    rw [List.append_nil] at last
    rcases last with ⟨path, reason, asked, refused, said⟩ | ⟨ready, output, carried⟩
    · rw [said]
      refine .noOutput input asked refused ?_ (put_tells _ 1 (by simp))
      simpa [descriptorOf] using input.streams 1
    · rw [carried]
      exact course_of_wired words (.of_stages input output)

/-! ### The shell meanwhile -/

/-- A process has not been disturbed: at most it has been told of a child that ended, or lost its parent. -/
def Process.Spared (p q : Process) : Prop :=
  q = { p with parent := q.parent, pending := q.pending }

/-- The process of a number, if there is one, has not been disturbed. -/
def Spares (number : Nat) (m m' : Machine) : Prop :=
  ∃ f : Process → Process, (∀ p : Process, p.Spared (f p)) ∧
    m'.process? number = (m.process? number).map f

variable {m m' m'' : Machine} {number other : Nat}

theorem Spares.of_eq (same : m'.process? other = m.process? other) : Spares other m m' :=
  ⟨id, fun _ => rfl, by rw [same, Option.map_id_fun, id]⟩

theorem Spares.trans (first : Spares other m m') (second : Spares other m' m'') : Spares other m m'' := by
  obtain ⟨f, spared, found⟩ := first
  obtain ⟨g, later, next⟩ := second
  refine ⟨g ∘ f, fun p => ?_, by rw [next, found, Option.map_map]⟩
  have between := spared p
  have after := later (f p)
  rw [Process.Spared] at between after ⊢
  rw [Function.comp_apply, after, between]

theorem tellParent_spares (m : Machine) (number other : Nat) : Spares other m (m.tellParent number) := by
  rw [tellParent]
  split
  · next parent found =>
    split_ifs
    · refine ⟨fun p => if p.number = parent.number then
        { p with pending := p.pending.filter (· != childSignal) ++ [childSignal] } else p,
        fun p => ?_, process?_modifyProcess m parent.number other fun _ => rfl⟩
      dsimp only
      split_ifs <;> rfl
    · exact .of_eq rfl
  · exact .of_eq rfl

theorem finish_spares (shell : m.shellNumber = other) (differs : other ≠ number) (word : Int) :
    Spares other m (m.finish number word) := by
  have told := tellParent_spares m number other
  refine told.trans ⟨fun p => if p.parent = number then { p with parent := 1 } else p, fun p => ?_, ?_⟩
  · dsimp only
    split_ifs <;> rfl
  · have ended : ((m.tellParent number).modifyProcess number
        fun p => { p with ended := some word }).process? other =
          (m.tellParent number).process? other :=
      process?_modifyProcess_other differs fun p here => here
    -- The shell is kept in the table whatever has become of it.
    rw [finish]
    refine (process?_filter _ fun p here => ?_).trans ((process?_map _ fun p => ?_).trans ?_)
    · simp [here, shell]
    · split_ifs <;> rfl
    · exact congrArg _ ended

theorem conclude_spares (differs : m.shellNumber ≠ number) (t : Task) :
    Spares m.shellNumber m (m.conclude number t) := by
  rw [conclude]
  split
  · exact .of_eq (process?_modifyProcess_other differs fun p here => here)
  · have stored : (m.store number { t with process := { t.process with stalled := none } }).process?
        m.shellNumber = m.process? m.shellNumber :=
      process?_modifyProcess_other differs fun _ _ => rfl
    split
    · refine (Spares.of_eq stored).trans ?_
      apply finish_spares
      · rfl
      · exact differs
    · exact .of_eq stored

theorem disk_finish (m : Machine) (number : Nat) (word : Int) : (m.finish number word).disk = m.disk := by
  have told : (m.tellParent number).disk = m.disk := by
    rw [tellParent]
    split
    · split_ifs <;> rfl
    · rfl
  exact told

theorem disk_conclude {t : Task} (flowing : t.stalled = none) (m : Machine) (number : Nat) :
    (m.conclude number t).disk = t.disk := by
  rw [conclude, flowing]
  dsimp only
  split
  · exact disk_finish _ number _
  · rfl

/-- What a child of the shell does before it becomes a program, on whatever disk, under whatever mask and with
whatever descriptors.  On a machine the disk is afterwards what the child has made of it, and the process of the
shell, its descriptors, directory, mask and signals, is as it was. -/
theorem setUp_course {c : Command} {background : Bool} {plan : LaunchPlan}
    (planned : LaunchPlan.ofCommand c background = .ok plan) :
    (∀ t : Task, Course c background (t.prepared (!background)) (setUp t plan)) ∧
      ∀ (m : Machine) (p : Process), p.activity = .setup plan → m.shellNumber ≠ p.number →
        (m.stepProcess p).disk = (setUp (m.taskOf p) plan).disk ∧
          Spares m.shellNumber m (m.stepProcess p) := by
  refine ⟨setUp_takes planned, fun m p doing other => ?_⟩
  have step : m.stepProcess p = m.conclude p.number (setUp (m.taskOf p) plan) := by
    rw [stepProcess, doing]
  rw [step]
  constructor
  · exact disk_conclude (setUp_starts (m.taskOf p) plan).1 m p.number
  · exact conclude_spares other _

/-- A child with both streams redirected whose input is missing.  Its descriptors are closed but for the standard
output, which is a file that is written at its end, and there the child says so. -/
theorem setUp_course_redirected :
    let c : Command := { argv := ["sort", "-r"], input := some "in", output := some "out" }
    let plan : LaunchPlan := ⟨["sort", "-r"], true, [⟨.input, "in"⟩, ⟨.output, "out"⟩]⟩
    let shell : Process :=
      { number := 1
        parent := 0
        directory := FileTree.root
        descriptors := [none, some 0]
        mask := 0o22
        environment := default
        activity := .shell }
    let child : Process := { shell with number := 2, parent := 1, activity := .setup plan }
    let m : Machine :=
      { disk :=
          { tree :=
              { nodes :=
                  #[{ content := .directory [] FileTree.root, mode := 0o755 },
                    { content := .file [104, 105, 10], mode := 0o644 }] }
            files := #[{ node := 1, writable := true, appending := true }] }
        processes := [shell, child]
        nextNumber := 3
        shellNumber := 1 }
    LaunchPlan.ofCommand c false = .ok plan ∧
      Course c false ((m.taskOf child).prepared true) (setUp (m.taskOf child) plan) ∧
      ((m.stepProcess child).disk.tree.node? 1).map (·.content) =
        some (.file ([104, 105, 10] ++ bytesOfText "cannot open in for input\n")) ∧
      Spares 1 m (m.stepProcess child) := by
  intro c plan shell child m
  have planned : LaunchPlan.ofCommand c false = .ok plan := by decide
  obtain ⟨takes, stepping⟩ := setUp_course planned
  have course : Course c false ((m.taskOf child).prepared true) (setUp (m.taskOf child) plan) :=
    takes (m.taskOf child)
  obtain ⟨disk, spares⟩ := stepping m child rfl (by decide)
  refine ⟨planned, course, ?_, spares⟩
  rw [disk]
  have stdout : ((m.taskOf child).prepared true).WritesTo 1 0
      { node := 1, writable := true, appending := true } { content := .file [104, 105, 10], mode := 0o644 } :=
    ⟨rfl, rfl, rfl, rfl⟩
  have refused : ((m.taskOf child).prepared true).openPath (bytesOfText "in") OpenMode.reading =
      .error Errno.noEntry := by
    have written : bytesOfText "in" = [105, 110] := by decide +kernel
    have noStatus : Task.statusNumber? [105, 110] = none := by decide +kernel
    have noDescriptor : Task.descriptorNumber? [105, 110] = none := by decide +kernel
    simp [written, Task.openPath, noStatus, noDescriptor, Disk.openPath, FileTree.locate, FileTree.steps,
      FileTree.pieces, FileTree.walk, FileTree.isAbsolute, FileTree.slash, FileTree.dot, FileTree.pathLimit,
      FileTree.nameLimit, FileTree.isDirectory, FileTree.allows, FileTree.entries, FileTree.node?, FileTree.root,
      OpenMode.reading, Node.isDirectory, Node.allows, Access.bit, taskOf, Task.prepared, m, child, shell]
  have unfed {fed : Task} : ¬ StreamReady .input ((m.taskOf child).prepared true) (some "in") fed := by
    intro ready
    cases ready with
    | opened reached =>
        rw [openModeOf, refused] at reached
        cases reached
  generalize setUp (m.taskOf child) plan = ended at course
  cases course with
  | noInput asked _ told =>
      obtain rfl := Option.some.inj asked
      exact told.appended stdout rfl rfl
  | noOutput input => exact absurd input unfed
  | notRun wired => exact absurd wired.input unfed
  | runs wired => exact absurd wired.input unfed

end JobShell.Machine
