/-
Module: JobShell.Proofs.SettingUp
Purpose: The way of a child of the shell to its program.  Neither redirections nor the search for the program
  touch what the process has said about signals; what a name leads to decides which program it becomes with which
  arguments; becoming a program puts handled signals back to their default and leaves ignored ones ignored.
Main exports: Starts, Becomes, searchExec_image, setUp_starts, afterExec_prepareChild
-/
import JobShell.Machine.Setup
import Mathlib.Tactic.SplitIfs

namespace JobShell.Machine

/-! ### Redirections -/

theorem openPath_keeps {t t' : Task} {path : Text.Bytes} {how : OpenMode} {file : FileId}
    (opened : t.openPath path how = .ok (file, t')) :
    t'.process = t.process ∧ t'.stalled = t.stalled := by
  rw [Task.openPath] at opened
  split at opened
  · rw [Task.openStatus] at opened
    split_ifs at opened
    split at opened
    · cases opened
    · obtain ⟨-, rfl⟩ := Prod.mk.inj (Except.ok.inj opened)
      exact ⟨rfl, rfl⟩
  · rw [Task.openDescriptor] at opened
    split at opened
    · cases opened
    · split at opened
      · cases opened
      · obtain ⟨-, rfl⟩ := Prod.mk.inj (Except.ok.inj opened)
        exact ⟨rfl, rfl⟩
  · split at opened
    · cases opened
    · obtain ⟨-, rfl⟩ := Prod.mk.inj (Except.ok.inj opened)
      exact ⟨rfl, rfl⟩

theorem put_keeps (t : Task) (descriptor : Nat) (bytes : Text.Bytes) :
    (t.put descriptor bytes).process = t.process ∧ (t.put descriptor bytes).stalled = t.stalled := by
  rw [Task.put, Task.write]
  split
  · exact ⟨rfl, rfl⟩
  · split_ifs <;> exact ⟨rfl, rfl⟩

theorem redirect_keeps {t t' : Task} {r : Redirection} (redirected : redirect t r = .ok t') :
    t'.process.dispositions = t.process.dispositions ∧ t'.stalled = t.stalled := by
  rw [redirect] at redirected
  split at redirected
  · cases redirected
  · next file opened reached =>
    obtain ⟨process, stalled⟩ := openPath_keeps reached
    obtain rfl := Except.ok.inj redirected
    exact ⟨by rw [← process]; rfl, stalled⟩

/-- Redirections leave alone what a process has said about signals, whether they succeed or not. -/
theorem redirectAll_keeps (redirections : List Redirection) (t : Task) :
    (∀ t', redirectAll t redirections = .ok t' →
      t'.process.dispositions = t.process.dispositions ∧ t'.stalled = t.stalled) ∧
    ∀ t', redirectAll t redirections = .error t' → t'.stalled = t.stalled := by
  induction redirections generalizing t with
  | nil => simp [redirectAll]
  | cons r rest ih =>
      rw [redirectAll]
      split
      · next opened redirected =>
        obtain ⟨dispositions, stalled⟩ := redirect_keeps redirected
        rw [← dispositions, ← stalled]
        exact ih opened
      · refine ⟨by simp, fun t' said => ?_⟩
        rw [← Except.error.inj said]
        exact (put_keeps t 1 _).2

/-! ### Becoming a program -/

/-- What a file starts with the arguments it is given.  A program starts with them as they are; a script starts
its interpreter, with what the script says, its own path, and the arguments after the first. -/
inductive Starts (tree : FileTree) (here : NodeId) :
    Text.Bytes → List Text.Bytes → Program → List Text.Bytes → Prop where
  | program {path : Text.Bytes} {arguments : List Text.Bytes} {node : Node} {program : Program}
      (found : runnable tree here path = .ok node) (content : node.content = .program program) :
      Starts tree here path arguments program arguments
  | script {path : Text.Bytes} {arguments given : List Text.Bytes} {node : Node} {interpreter : Interpreter}
      {program : Program} (found : runnable tree here path = .ok node)
      (names : interpreter? node.bytes = some interpreter)
      (onward : Starts tree here interpreter.path
        (interpreter.path :: interpreter.argument.toList ++ path :: arguments.tail) program given) :
      Starts tree here path arguments program given

theorem imageOf_starts {tree : FileTree} {here : NodeId} {left : Nat} {path : Text.Bytes}
    {arguments given : List Text.Bytes} {program : Program}
    (image : imageOf tree here left path arguments = .ok (program, given)) :
    Starts tree here path arguments program given := by
  fun_induction imageOf tree here left path arguments with
  | case1 | case3 | case4 | case5 => cases image
  | case2 left path arguments node found program' content =>
      cases image
      exact .program found content
  | case6 path arguments node found interpreter names left content ih =>
      exact .script found names (ih image)

/-- The paths under which a program is looked for. -/
def candidates (p : Process) (name : Text.Bytes) : List Text.Bytes :=
  if name.contains FileTree.slash then [name]
  else
    (searchDirectories ((p.environment.get? "PATH").getD defaultSearchPath)).map fun directory =>
      if directory.isEmpty then name else directory ++ FileTree.slash :: name

/-- What a process becomes by one of the paths of a program: what the file there starts, or what the script
interpreter starts on it if the file is of no known format. -/
inductive Becomes (tree : FileTree) (p : Process) (path : Text.Bytes) (arguments : List Text.Bytes) :
    Process → Prop where
  | file {program : Program} {given : List Text.Bytes}
      (starts : Starts tree p.directory path arguments program given) :
      Becomes tree p path arguments (p.become program given)
  | text {program : Program} {given : List Text.Bytes}
      (unknown : execFile tree p path arguments = .error Errno.notExecutable)
      (starts : Starts tree p.directory (bytesOfText "/bin/sh")
        (bytesOfText "/bin/sh" :: path :: arguments.tail) program given) :
      Becomes tree p path arguments (p.become program given)

theorem execFile_starts {tree : FileTree} {p q : Process} {path : Text.Bytes} {arguments : List Text.Bytes}
    (started : execFile tree p path arguments = .ok q) :
    ∃ program given, Starts tree p.directory path arguments program given ∧
      q = p.become program given := by
  rw [execFile] at started
  split at started
  · cases started
  · next program given image =>
    exact ⟨program, given, imageOf_starts image, (Except.ok.inj started).symm⟩

theorem execOrInterpret_image {tree : FileTree} {p q : Process} {path : Text.Bytes} {arguments : List Text.Bytes}
    (started : execOrInterpret tree p path arguments = .ok q) : Becomes tree p path arguments q := by
  rw [execOrInterpret] at started
  split at started
  · next reason failed =>
    split_ifs at started with unknown
    obtain ⟨program, given, starts, rfl⟩ := execFile_starts started
    exact .text (unknown ▸ failed) starts
  · next became =>
    obtain rfl := Except.ok.inj started
    obtain ⟨program, given, starts, rfl⟩ := execFile_starts became
    exact .file starts

theorem tryDirectories_image {tree : FileTree} {p q : Process} {name : Text.Bytes} {arguments : List Text.Bytes}
    {refused : Bool} {last : Errno} {directories : List Text.Bytes}
    (started : tryDirectories tree p name arguments refused last directories = .ok q) :
    ∃ path ∈ directories.map fun directory =>
        if directory.isEmpty then name else directory ++ FileTree.slash :: name,
      Becomes tree p path arguments q := by
  induction directories generalizing refused last with
  | nil => cases started
  | cons directory rest ih =>
      rw [tryDirectories] at started
      split at started
      · next became =>
        obtain rfl := Except.ok.inj started
        exact ⟨_, List.mem_cons_self, execOrInterpret_image became⟩
      · split_ifs at started
        · obtain ⟨path, tried, becomes⟩ := ih started
          exact ⟨path, List.mem_cons_of_mem _ tried, becomes⟩
        · obtain ⟨path, tried, becomes⟩ := ih started
          exact ⟨path, List.mem_cons_of_mem _ tried, becomes⟩

/-- Whatever file a name leads to, the process becomes what that file starts. -/
theorem searchExec_image {tree : FileTree} {p q : Process} {name : Text.Bytes} {others : List Text.Bytes}
    (started : searchExec tree p (name :: others) = .ok q) :
    ∃ path ∈ candidates p name, Becomes tree p path (name :: others) q := by
  rw [searchExec] at started
  rw [candidates]
  split_ifs at started ⊢
  · exact ⟨name, List.mem_singleton_self name, execOrInterpret_image started⟩
  · exact tryDirectories_image started

/-- Whatever file a name leads to, the process becomes a program and forgets its handlers. -/
theorem searchExec_becomes {tree : FileTree} {p q : Process} {arguments : List Text.Bytes}
    (started : searchExec tree p arguments = .ok q) :
    ∃ program given, q = p.become program given := by
  cases arguments with
  | nil => cases started
  | cons name others =>
      obtain ⟨path, -, becomes⟩ := searchExec_image started
      cases becomes with
      | file => exact ⟨_, _, rfl⟩
      | text => exact ⟨_, _, rfl⟩

/-- A child that has set itself up has ended, or it has become a program.  What the shell handles is back at
its default, and what the shell ignores stays ignored, but for the interrupt in the foreground. -/
theorem setUp_starts (t : Task) (plan : LaunchPlan) :
    (setUp t plan).stalled = t.stalled ∧
      ((setUp t plan).process.ended.isSome = true ∨
        ∃ program arguments, (setUp t plan).process.activity = .running program arguments ∧
          (setUp t plan).process.dispositions =
            (t.process.dispositions.prepareChild plan.foreground).afterExec) := by
  obtain ⟨carries, refuses⟩ := redirectAll_keeps plan.redirections (t.prepared plan.foreground)
  rw [setUp]
  split
  · next said refused => exact ⟨refuses said refused, .inl rfl⟩
  · next ready carried =>
    obtain ⟨dispositions, stalled⟩ := carries ready carried
    split
    · next p started =>
      obtain ⟨program, given, rfl⟩ := searchExec_becomes started
      exact ⟨stalled, .inr ⟨program, given, rfl, congrArg Dispositions.afterExec dispositions⟩⟩
    · exact ⟨(put_keeps ready 2 _).2.trans stalled, .inl rfl⟩

/-- What a child of the shell says about the two signals at the start of its program. -/
theorem afterExec_prepareChild {d : Dispositions} (ignores : d interrupt = .ignore) (foreground : Bool) :
    (d.prepareChild foreground).afterExec interrupt = (if foreground then .default else .ignore) ∧
      (d.prepareChild foreground).afterExec suspendSignal = .ignore := by
  cases foreground <;>
    simp [Dispositions.afterExec, Dispositions.prepareChild, Dispositions.set_apply, ignores,
      show interrupt ≠ suspendSignal by decide]

end JobShell.Machine
