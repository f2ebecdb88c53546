/-
Module: JobShell.Proofs.Unfolding
Purpose: What the shell does, call by call.  Whatever relation between systems holds over each call, but for a
  change of the directory, holds over every operation that is not a `cd`; so on a machine every operation
  unfolds into strokes, and a child is made for a line alone, by the plan for its command in the mode that is
  read as the line begins.
Main exports: Kernel.KeepsTo, Operation.perform_keeps, Shell.Plans, perform_goes, stuck_line_goes, Run, Run.goes
-/
import JobShell.Proofs.LineForms
import JobShell.Proofs.Strokes

namespace JobShell

open Machine (Goes)

variable {σ : Type}

/-- A relation holds where nothing happens, is passed on, and holds over each call that the shell makes, be it that
children are made by certain plans only.  A change of the directory is left out. -/
structure Kernel.KeepsTo (k : Kernel σ) (allowed : LaunchPlan → Prop) (R : σ → σ → Prop) : Prop where
  refl (s : σ) : R s s
  trans {s t u : σ} : R s t → R t u → R s u
  fork {plan : LaunchPlan} (s : σ) : allowed plan → R s (k.fork plan s).2
  await {pid : Pid} {s s' : σ} {answer : WaitAnswer} : k.await pid s = some (answer, s') → R s s'
  poll (target : WaitTarget) (s : σ) : R s (k.poll target s).2
  kill (pid : Pid) (signal : StopSignal) (s : σ) : R s (k.kill pid signal s).2
  sleep (milliseconds : Nat) (s : σ) : R s (k.sleep milliseconds s)
  toggles (s : σ) : R s (k.toggles s).2
  write (stream : Stream) (text : String) (s : σ) : R s (k.write stream text s)
  note (n : Diagnostics.Note) (s : σ) : R s (k.note n s)

section

variable {k : Kernel σ} {R : σ → σ → Prop} {allowed : LaunchPlan → Prop}

/-! ### Telling -/

theorem inform_keeps (keeps : k.KeepsTo allowed R) (text : String) (sh : Shell σ) :
    R sh.system (sh.inform k text).system :=
  keeps.note _ sh.system

theorem say_keeps (keeps : k.KeepsTo allowed R) (line : String) (sh : Shell σ) :
    R sh.system (sh.say k line).system :=
  keeps.write _ _ sh.system

theorem announce_keeps (keeps : k.KeepsTo allowed R) (sh : Shell σ) (mode : Mode) :
    R sh.system (sh.announce k mode).system :=
  keeps.trans (inform_keeps keeps _ sh) (say_keeps keeps _ _)

theorem reportModes_keeps (keeps : k.KeepsTo allowed R) (sh : Shell σ) :
    R sh.system (sh.reportModes k).system := by
  have announcing (modes : List Mode) (sh : Shell σ) :
      R sh.system (modes.foldl (Shell.announce k) sh).system := by
    induction modes generalizing sh with
    | nil => exact keeps.refl _
    | cons mode rest ih => exact keeps.trans (announce_keeps keeps sh mode) (ih _)
  have counting : R sh.system (k.toggles sh.system).2 := keeps.toggles sh.system
  rcases counted : k.toggles sh.system with ⟨seen, s⟩
  rw [counted] at counting
  simp only [Shell.reportModes, counted, ModeSwitch.drain, ModeSwitch.reportUpTo]
  exact keeps.trans counting (announcing _ { sh with reported := seen, system := s })

/-! ### Waiting and collecting -/

theorem waitWithin_keeps (keeps : k.KeepsTo allowed R) {pid : Pid} {fuel : Nat} {s s' : σ}
    {answer : Except ProcessFailure Termination}
    (waited : waitWithin k pid fuel s = some (answer, s')) :
    R s s' := by
  induction fuel generalizing s with
  | zero => cases waited
  | succ fuel ih =>
      rw [waitWithin] at waited
      split at waited
      · cases waited
      · next change t awaited =>
        have first : R s t := keeps.await awaited
        split at waited
        · obtain ⟨-, rfl⟩ := Prod.mk.inj (Option.some.inj waited)
          exact first
        · exact keeps.trans first (ih waited)
        · split at waited
          · exact keeps.trans first (ih waited)
          · obtain ⟨-, rfl⟩ := Prod.mk.inj (Option.some.inj waited)
            exact first

theorem pollFor_keeps (keeps : k.KeepsTo allowed R) (pid : Pid) (s : σ) :
    R s (pollFor k pid s).2 := by
  have polled : R s (k.poll (.only pid) s).2 := keeps.poll _ s
  rcases asked : k.poll (.only pid) s with ⟨answer, t⟩
  rw [asked] at polled
  simp only [pollFor, asked]
  split
  · exact polled
  · split <;> exact polled

theorem sweepWithin_keeps (keeps : k.KeepsTo allowed R) (fuel : Nat) (s : σ) :
    R s (sweepWithin k fuel s).2 := by
  induction fuel generalizing s with
  | zero => exact keeps.refl _
  | succ fuel ih =>
      have polled : R s (k.poll .any s).2 := keeps.poll _ s
      rcases asked : k.poll .any s with ⟨answer, t⟩
      rw [asked] at polled
      rw [sweepWithin, asked]
      cases answer with
      | quiet => exact polled
      | failed reason =>
          dsimp only
          split_ifs
          · exact polled
          · exact keeps.trans polled (ih t)
          · exact keeps.trans polled (keeps.note _ t)
      | changed pid word =>
          dsimp only
          split
          · exact keeps.trans polled (keeps.note _ t)
          · exact keeps.trans polled (ih t)
          · exact keeps.trans polled (ih t)

theorem reportFinished_keeps (keeps : k.KeepsTo allowed R) (sh : Shell σ) :
    R sh.system (sh.reportFinished k).2.system := by
  have reporting (collected : List Collected) (sh : Shell σ) :
      R sh.system (collected.foldl (Shell.reportCollected k) sh).system := by
    induction collected generalizing sh with
    | nil => exact keeps.refl _
    | cons child rest ih =>
        have told : R sh.system (sh.reportCollected k child).system :=
          say_keeps keeps _ { sh with state := sh.state.settle child }
        exact keeps.trans told (ih _)
  have sweeping : R sh.system (sweep k sh.system).2 := sweepWithin_keeps keeps _ _
  rcases swept : sweep k sh.system with ⟨collected, s⟩
  rw [swept] at sweeping
  simp only [Shell.reportFinished, swept]
  exact keeps.trans sweeping (reporting collected { sh with system := s })

theorem send_keeps (keeps : k.KeepsTo allowed R) (pid : Pid) (signal : StopSignal) (s : σ) :
    R s (send k pid signal s) := by
  have sent : R s (k.kill pid signal s).2 := keeps.kill pid signal s
  rcases killed : k.kill pid signal s with ⟨outcome | reason, t⟩ <;> rw [killed] at sent
  · rw [send, killed]
    dsimp only
    split
    · exact sent
    · exact keeps.trans sent (keeps.note _ t)
  · rw [send, killed]
    exact sent

theorem pollEach_keeps (keeps : k.KeepsTo allowed R) (pids : List Pid) (s : σ) :
    R s (pollEach k pids s).2.2 := by
  induction pids generalizing s with
  | nil => exact keeps.refl _
  | cons pid rest ih =>
      have polled : R s (pollFor k pid s).2 := pollFor_keeps keeps pid s
      rw [pollEach]
      dsimp only
      split <;> exact keeps.trans polled (ih _)

theorem pollUntil_keeps (keeps : k.KeepsTo allowed R) (deadline rounds : Nat) (pids : List Pid) (s : σ) :
    R s (pollUntil k deadline rounds pids s).2.2 := by
  induction rounds generalizing pids s with
  | zero => exact keeps.refl _
  | succ rounds ih =>
      have polled : R s (pollEach k pids s).2.2 := pollEach_keeps keeps pids s
      rcases asked : pollEach k pids s with ⟨ended, pending, t⟩
      rw [asked] at polled
      simp only [pollUntil, asked]
      split
      · exact polled
      · have slept : R t (k.sleep pollInterval t) := keeps.sleep _ t
        exact keeps.trans (keeps.trans polled slept) (ih pending _)

theorem killEach_keeps (keeps : k.KeepsTo allowed R) {pids : List Pid} {s s' : σ}
    {collected : List Collected} (killed : killEach k pids s = some (collected, s')) :
    R s s' := by
  induction pids generalizing s s' collected with
  | nil =>
      obtain ⟨-, rfl⟩ := Prod.mk.inj (Option.some.inj killed)
      exact keeps.refl _
  | cons pid rest ih =>
      rw [killEach] at killed
      split at killed
      · cases killed
      · next answer t waited =>
        have noted (n : Diagnostics.Note) : R s (k.note n s) := keeps.note n s
        have killing := keeps.trans (send_keeps keeps pid .kill _) (waitWithin_keeps keeps waited)
        have first := keeps.trans (noted _) killing
        split at killed
        · cases killed
        · next others u after =>
          have whole := keeps.trans first (ih after)
          split at killed <;>
          · obtain ⟨-, rfl⟩ := Prod.mk.inj (Option.some.inj killed)
            exact whole

theorem stopAll_keeps (keeps : k.KeepsTo allowed R) {pids : List Pid} {grace : Nat} {s s' : σ}
    {collected : List Collected} (stopped : stopAll k pids grace s = some (collected, s')) :
    R s s' := by
  have asking (pids : List Pid) (s : σ) : R s (pids.foldl (fun s pid => send k pid .terminate s) s) := by
    induction pids generalizing s with
    | nil => exact keeps.refl _
    | cons pid rest ih => exact keeps.trans (send_keeps keeps pid .terminate s) (ih _)
  rw [stopAll] at stopped
  dsimp only at stopped
  split at stopped
  · cases stopped
  · next killed t after =>
    obtain ⟨-, rfl⟩ := Prod.mk.inj (Option.some.inj stopped)
    apply keeps.trans (asking pids s)
    exact keeps.trans (pollUntil_keeps keeps _ _ pids _) (killEach_keeps keeps after)

theorem shutdown_keeps (keeps : k.KeepsTo allowed R) {sh sh' : Shell σ}
    (ended : sh.shutdown k = some sh') : R sh.system sh'.system := by
  rw [Shell.shutdown] at ended
  dsimp only [ShellState.takeBackground] at ended
  split at ended
  · exact Option.some.inj ended ▸ keeps.refl _
  · split at ended
    · cases ended
    · next collected s stopped =>
      obtain rfl := Option.some.inj ended
      exact keeps.trans (keeps.note _ sh.system) (stopAll_keeps keeps stopped)

/-! ### Launching -/

theorem launch_keeps (keeps : k.KeepsTo allowed R) {c : Command} {foregroundOnly : Bool} {s s' : σ}
    {outcome : Except ProcessFailure Launch}
    (may : ∀ plan, LaunchPlan.ofCommand c (runsInBackground c foregroundOnly) = .ok plan → allowed plan)
    (launched : launch k c foregroundOnly s = some (outcome, s')) :
    R s s' := by
  rw [launch] at launched
  split at launched
  · obtain ⟨-, rfl⟩ := Prod.mk.inj (Option.some.inj launched)
    exact keeps.refl _
  · next plan planned =>
    have forked : R s (k.fork plan s).2 :=
      keeps.fork s (may plan planned)
    split at launched
    · next reason t refused =>
      rw [refused] at forked
      obtain ⟨-, rfl⟩ := Prod.mk.inj (Option.some.inj launched)
      exact forked
    · next pid t made =>
      rw [made] at forked
      have polled : R t (pollFor k pid t).2 := pollFor_keeps keeps pid t
      split at launched
      · split at launched
        all_goals
          next asked =>
          rw [asked] at polled
          obtain ⟨-, rfl⟩ := Prod.mk.inj (Option.some.inj launched)
          exact keeps.trans forked polled
      · split at launched
        · cases launched
        all_goals
          next waited =>
          obtain ⟨-, rfl⟩ := Prod.mk.inj (Option.some.inj launched)
          exact keeps.trans forked (waitWithin_keeps keeps waited)

theorem afterForeground_keeps (keeps : k.KeepsTo allowed R) (status : Termination) (sh : Shell σ) :
    R sh.system (sh.afterForeground k status).system := by
  cases status with
  | exited code => exact reportModes_keeps keeps (sh.record (.exited code))
  | signaled signal =>
      have told : R sh.system _ :=
        say_keeps keeps (Termination.signaled signal).describe (sh.record (.signaled signal))
      exact keeps.trans told (reportModes_keeps keeps _)

theorem afterBackground_keeps (keeps : k.KeepsTo allowed R) (pid : Pid) (finished : Option Termination)
    (sh : Shell σ) :
    R sh.system (sh.afterBackground k pid finished).system := by
  have named : R sh.system _ := say_keeps keeps s!"background pid is {pid}" sh
  cases finished with
  | none => exact named
  | some status => exact keeps.trans named (say_keeps keeps _ _)

/-- A launch forks by the plan for its command in the mode that has been read, if it forks at all. -/
theorem launchCommand_keeps (keeps : k.KeepsTo allowed R) {c : Command} {sh sh' : Shell σ}
    {result : Except Failure Flow}
    (may : ∀ plan, LaunchPlan.ofCommand c (runsInBackground c
      (ModeSwitch.isForegroundOnly { toggles := (k.toggles sh.system).1 })) = .ok plan → allowed plan)
    (launched : sh.launchCommand k c = some (result, sh')) :
    R sh.system sh'.system := by
  have counted : R sh.system (k.toggles sh.system).2 := keeps.toggles sh.system
  rw [Shell.launchCommand] at launched
  dsimp only at launched
  split at launched
  · cases launched
  · next e t started =>
    obtain ⟨-, rfl⟩ := Prod.mk.inj (Option.some.inj launched)
    exact keeps.trans counted (launch_keeps keeps may started)
  · next pid status t started =>
    obtain ⟨-, rfl⟩ := Prod.mk.inj (Option.some.inj launched)
    have begun := keeps.trans counted (launch_keeps keeps may started)
    exact keeps.trans begun (afterForeground_keeps keeps status { sh with system := t })
  · next pid finished t started =>
    obtain ⟨-, rfl⟩ := Prod.mk.inj (Option.some.inj launched)
    have begun := keeps.trans counted (launch_keeps keeps may started)
    exact keeps.trans begun (afterBackground_keeps keeps pid finished { sh with system := t })

/-! ### Operations -/

/-- The plan for a line.  Its command is launched with the marks replaced, and in the background if it asks for
that and the mode in force honours it; otherwise in the foreground. -/
def Shell.Plans (k : Kernel σ) (sh : Shell σ) (text : String) (background : Bool) (plan : LaunchPlan) :
    Prop :=
  ∃ written, Command.parse text = .ok (some written) ∧
    background = runsInBackground (written.substitutePid (toString sh.state.pid))
      (ModeSwitch.isForegroundOnly { toggles := (k.toggles sh.system).1 }) ∧
    LaunchPlan.ofCommand (written.substitutePid (toString sh.state.pid)) background = .ok plan

/-- What a shell may fork for in an operation: the command of a line. -/
def Shell.MayFork (k : Kernel σ) (sh : Shell σ) (operation : Operation) (plan : LaunchPlan) : Prop :=
  ∃ text background, operation = .line text ∧ sh.Plans k text background plan

/-- Whatever the shell is asked to do is a `cd`, which is carried out, or it keeps to what its calls keep to. -/
theorem Operation.perform_keeps {operation : Operation} {sh sh' : Shell σ}
    (keeps : k.KeepsTo (sh.MayFork k operation) R) (performed : operation.perform k sh = some sh') :
    (∃ line c, operation = .line line ∧ sh.Understands line c ∧ c.program = some "cd" ∧
      sh' = (sh.changeDirectory k c.arguments).2) ∨ R sh.system sh'.system := by
  cases operation with
  | line text =>
      obtain ⟨⟨result, reached⟩, executed, rfl⟩ := Option.map_eq_some_iff.1 performed
      cases executeLine_does executed with
      | nothing => exact .inr (keeps.refl _)
      | moves understood named => exact .inl ⟨text, _, rfl, understood, named, rfl⟩
      | tells => exact .inr (say_keeps keeps _ sh)
      | launches understood launched =>
          obtain ⟨written, parsed, rfl⟩ := understood
          right
          apply launchCommand_keeps keeps _ launched
          intro plan planned
          exact ⟨text, _, rfl, written, parsed, rfl, planned⟩
  | reportModes => exact .inr (Option.some.inj performed ▸ reportModes_keeps keeps sh)
  | reportFinished => exact .inr (Option.some.inj performed ▸ reportFinished_keeps keeps sh)
  | shutdown => exact .inr (shutdown_keeps keeps performed)

end

/-- A line that never comes back has made a child by its plan and waits for it, in the foreground. -/
theorem fork_of_stuck_line {k : Kernel σ} {sh : Shell σ} {text : String}
    (stuck : sh.executeLine k text = none) :
    ∃ plan pid s, sh.Plans k text false plan ∧ k.fork plan (k.toggles sh.system).2 = (.ok pid, s) ∧
      waitFor k pid s = none := by
  obtain ⟨c, ⟨written, parsed, rfl⟩, held⟩ := launchCommand_of_executeLine_none stuck
  rw [launchCommand_eq (Prod.eta (k.toggles sh.system)).symm, Option.map_eq_none_iff] at held
  obtain ⟨foreground, plan, pid, s, planned, forked, never⟩ := launch_eq_none held
  rw [foreground] at planned
  exact ⟨plan, pid, s, ⟨written, parsed, foreground.symm, planned⟩, forked, never⟩

/-! ### Strokes -/

section

variable {k : Kernel σ} {machine : σ → Machine} {allowed : LaunchPlan → Prop}

/-- Nothing is forked on a way on which nothing may be. -/
theorem Machine.Goes.calm {m m' : Machine} (goes : Goes (fun _ => False) m m') : Goes allowed m m' :=
  goes.weaken fun _ => False.elim

/-- What is done on a machine keeps to the strokes of the machine. -/
theorem Kernel.RunsOn.keepsTo (real : k.RunsOn machine) :
    k.KeepsTo allowed fun s t => Goes allowed (machine s) (machine t) where
  refl s := .refl (machine s)
  trans first second := first.trans second
  fork s may := (real.fork _ s).weaken fun _ same => same ▸ may
  await awaited := (real.await awaited).calm
  poll target s := (real.poll target s).calm
  kill pid signal s := (real.kill pid signal s).calm
  sleep milliseconds s := (real.sleep milliseconds s).calm
  toggles s := (real.toggles s).calm
  write stream text s := (real.write stream text s).calm
  note n s := (real.note n s).calm

theorem changeDirectory_goes (real : k.RunsOn machine) (arguments : List String) (sh : Shell σ) :
    Goes allowed (machine sh.system) (machine (sh.changeDirectory k arguments).2.system) := by
  rw [Shell.changeDirectory]
  split
  · exact .refl _
  · next target directed =>
    have entered : Goes allowed (machine sh.system) (machine (Shell.enter k target sh.system).2) := by
      rw [Shell.enter]
      split
      · exact .refl _
      · have changed : Goes allowed (machine sh.system) _ :=
          (real.changeDirectory target sh.system).calm
        split <;> next moved => rw [moved] at changed; exact changed
    split <;> next went => rw [went] at entered; exact entered

/-- Every operation unfolds into strokes. -/
theorem perform_goes (real : k.RunsOn machine) {operation : Operation} {sh sh' : Shell σ}
    (performed : operation.perform k sh = some sh') :
    Goes (sh.MayFork k operation) (machine sh.system) (machine sh'.system) := by
  rcases Operation.perform_keeps real.keepsTo performed with ⟨_, c, -, -, -, rfl⟩ | goes
  · exact changeDirectory_goes real c.arguments sh
  · exact goes

/-- So does a line that never comes back, as far as to the child that it waits for. -/
theorem stuck_line_goes (real : k.RunsOn machine) {sh : Shell σ} {text : String}
    (stuck : sh.executeLine k text = none) :
    ∃ plan pid s, sh.Plans k text false plan ∧ k.fork plan (k.toggles sh.system).2 = (.ok pid, s) ∧
      waitFor k pid s = none ∧
      Goes (sh.MayFork k (.line text)) (machine sh.system) (machine s) := by
  obtain ⟨plan, pid, s, plans, forked, never⟩ := fork_of_stuck_line stuck
  have counted : Goes (sh.MayFork k (.line text)) (machine sh.system) (machine (k.toggles sh.system).2) :=
    (real.toggles sh.system).calm
  have made : Goes (sh.MayFork k (.line text)) (machine (k.toggles sh.system).2)
      (machine (k.fork plan (k.toggles sh.system).2).2) := by
    apply (real.fork plan _).weaken
    rintro _ rfl
    exact ⟨text, false, rfl, plans⟩
  rw [forked] at made
  exact ⟨plan, pid, s, plans, forked, never, counted.trans made⟩

end

/-! ### Runs -/

/-- The runs of a shell on a machine, with the shell before each operation.  Between two operations anything
may happen on the machine, signals that arrive from outside and input that is read included, as long as it
happens by strokes other than a fork. -/
inductive Run (k : Kernel σ) (machine : σ → Machine) (first : Shell σ) :
    List (Shell σ × Operation) → Shell σ → Prop where
  | start : Run k machine first [] first
  | perform {done : List (Shell σ × Operation)} {sh sh' : Shell σ} (operation : Operation)
      (soFar : Run k machine first done sh) (performed : operation.perform k sh = some sh') :
      Run k machine first (done ++ [(sh, operation)]) sh'
  | meanwhile {done : List (Shell σ × Operation)} {sh : Shell σ} (system : σ)
      (soFar : Run k machine first done sh)
      (went : Goes (fun _ => False) (machine sh.system) (machine system)) :
      Run k machine first done { sh with system := system }

/-- What a shell may have forked for once it has been asked for all of a row of operations. -/
def MayHaveForked (k : Kernel σ) (asked : List (Shell σ × Operation)) (plan : LaunchPlan) : Prop :=
  ∃ sh operation, (sh, operation) ∈ asked ∧ sh.MayFork k operation plan

theorem Machine.Goes.ask {k : Kernel σ} {asked : List (Shell σ × Operation)} {sh : Shell σ}
    {operation : Operation} {m m' m'' : Machine} (before : Goes (MayHaveForked k asked) m m')
    (after : Goes (sh.MayFork k operation) m' m'') :
    Goes (MayHaveForked k (asked ++ [(sh, operation)])) m m'' := by
  refine (before.weaken ?_).trans (after.weaken ?_)
  · rintro plan ⟨earlier, operation, member, may⟩
    exact ⟨earlier, operation, List.mem_append_left _ member, may⟩
  · intro plan may
    exact ⟨sh, operation, List.mem_append_right _ (List.mem_singleton.2 rfl), may⟩

/-- A run unfolds into strokes, in which a child is made for nothing but a line. -/
theorem Run.goes {k : Kernel σ} {machine : σ → Machine} (real : k.RunsOn machine) {first last : Shell σ}
    {done : List (Shell σ × Operation)} (ran : Run k machine first done last) :
    Goes (MayHaveForked k done) (machine first.system) (machine last.system) := by
  induction ran with
  | start => exact .refl _
  | perform operation soFar performed ih => exact ih.ask (perform_goes real performed)
  | meanwhile system soFar went ih => exact ih.trans went.calm

end JobShell
