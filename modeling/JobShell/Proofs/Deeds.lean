/-
Module: JobShell.Proofs.Deeds
Purpose: The operations of the shell that can be asked for in any order, and what each of them comes to on a
  faithful system: the calls it makes, in their order, and the memory that it leaves.
Main exports: Operation, Operation.perform, Launched, Deed, Makes, launchCommand_makes, perform_deed
-/
import JobShell.Proofs.Collecting
import JobShell.Proofs.Launching
import JobShell.Shell

namespace JobShell

variable {σ : Type}

/-- What a shell can be asked to do between two lines of input. -/
inductive Operation where
  | line (text : String)
  | reportModes
  | reportFinished
  | shutdown
deriving Repr, DecidableEq

/-- Does what is asked for.  A line and a shutdown may never come to an end. -/
def Operation.perform (k : Kernel σ) (sh : Shell σ) : Operation → Option (Shell σ)
  | line text => (sh.executeLine k text).map Prod.snd
  | reportModes => some (sh.reportModes k)
  | reportFinished => some (sh.reportFinished k).2
  | shutdown => sh.shutdown k

namespace Event

/-- A line on the standard output. -/
def said (line : String) : Event :=
  wrote .out (line ++ "\n")

/-- The line that names a background child. -/
def announcement (pid : Pid) : Event :=
  said s!"background pid is {pid}"

/-- The line that reports a background child. -/
def report (child : Collected) : Event :=
  said child.describe

end Event

/-- The calls of announcing modes: the count is read, and each mode entered since is told. -/
def modeReport (reported seen : UInt64) : List Event :=
  .counted seen :: (Mode.transitions reported seen).map fun mode => .said mode.notice

/-- The line after a foreground program that a signal killed. -/
def deathNotice : Termination → List Event
  | .signaled signal => [.said (Termination.signaled signal).describe]
  | .exited _ => []

/-- What follows on the decision to launch a program: the calls, and the memory that is left.  A child is
made or none; one in the foreground is waited for; one in the background is asked after once, and is
remembered unless it has ended by then.  If the ending cannot be read the launch fails after the child was
collected. -/
inductive Launched (state : ShellState) : List Event → ShellState → Prop where
  | refused : Launched state [] state
  | waited {plan : LaunchPlan} (pid : Pid) (how : Ending) (interruptions : Nat)
      (reported seen : UInt64) (front : plan.foreground = true) (named : how.isNamed = true) :
      Launched state
        (.forked plan pid :: waits pid interruptions (.changed pid how.word) ++
          (deathNotice how.status ++ modeReport reported seen))
        (state.recordStatus how.status)
  | lost {plan : LaunchPlan} (pid : Pid) (how : Ending) (interruptions : Nat)
      (front : plan.foreground = true) (nameless : how.isNamed = false) :
      Launched state (.forked plan pid :: waits pid interruptions (.changed pid how.word)) state
  | running {plan : LaunchPlan} {answer : WaitAnswer} (pid : Pid) (behind : plan.foreground = false)
      (still : answer.collects = none) :
      Launched state [.forked plan pid, .polled (.only pid) answer, .announcement pid]
        (state.track pid)
  | prompt {plan : LaunchPlan} (pid : Pid) (how : Ending) (behind : plan.foreground = false)
      (named : how.isNamed = true) :
      Launched state
        [.forked plan pid, .polled (.only pid) (.changed pid how.word), .announcement pid,
          .report ⟨pid, how.status⟩]
        (state.recordStatus how.status)
  | unread {plan : LaunchPlan} (pid : Pid) (how : Ending) (behind : plan.foreground = false)
      (nameless : how.isNamed = false) :
      Launched state [.forked plan pid, .polled (.only pid) (.changed pid how.word)] state

/-- The memory after a child has been reported. -/
def ShellState.settle (state : ShellState) (child : Collected) : ShellState :=
  (state.untrack child.pid).recordStatus child.status

/-- What an operation comes to: the calls, and the memory that is left. -/
inductive Deed (state : ShellState) : Operation → List Event → ShellState → Prop where
  | idle (text : String) : Deed state (.line text) [] state
  | moved (text : String) (path directory : Text.Bytes) :
      Deed state (.line text) [.moved path] (state.setDirectory directory)
  | told (text : String) : Deed state (.line text) [.said state.lastStatus.describe] state
  | launched {state' : ShellState} {calls : List Event} (text : String) (seen : UInt64)
      (launched : Launched state calls state') : Deed state (.line text) (.counted seen :: calls) state'
  | announced (reported seen : UInt64) : Deed state .reportModes (modeReport reported seen) state
  | swept {calls : List Event} {collected : List Collected} (swept : Swept calls collected) :
      Deed state .reportFinished (calls ++ collected.map .report)
        (collected.foldl ShellState.settle state)
  | stopped {calls : List Event} (stopped : Stopped state.background calls) :
      Deed state .shutdown calls { state with background := [] }

section

variable {k : Kernel σ} {history : σ → History}

/-- A line on the standard output is one call. -/
theorem say_passage (faithful : k.Faithful history) (line : String) (sh : Shell σ) :
    Passage (history sh.system) [.said line] (history (sh.say k line).system) :=
  faithful.write .out (line ++ "\n") sh.system

theorem announce_passage (faithful : k.Faithful history) (sh : Shell σ) (mode : Mode) :
    Passage (history sh.system) [.said mode.notice] (history (sh.announce k mode).system) :=
  (faithful.note _ sh.system).trans (say_passage faithful mode.notice _)

theorem announceAll_passage (faithful : k.Faithful history) (modes : List Mode) (sh : Shell σ) :
    (modes.foldl (Shell.announce k) sh).state = sh.state ∧
      (modes.foldl (Shell.announce k) sh).reported = sh.reported ∧
      Passage (history sh.system) (modes.map fun mode => .said mode.notice)
        (history (modes.foldl (Shell.announce k) sh).system) := by
  induction modes generalizing sh with
  | nil => exact ⟨rfl, rfl, .refl _⟩
  | cons mode rest ih =>
      obtain ⟨same, reported, passage⟩ := ih (sh.announce k mode)
      exact ⟨same, reported, (announce_passage faithful sh mode).trans passage⟩

/-- Reporting modes changes nothing in the memory, and reports up to a count that it reads. -/
theorem reportModes_passage (faithful : k.Faithful history) (sh : Shell σ) :
    (sh.reportModes k).state = sh.state ∧
      Passage (history sh.system) (modeReport sh.reported (sh.reportModes k).reported)
        (history (sh.reportModes k).system) := by
  have counting := faithful.toggles sh.system
  rcases counted : k.toggles sh.system with ⟨seen, s⟩
  simp only [counted] at counting
  simp only [Shell.reportModes, counted, ModeSwitch.drain, ModeSwitch.reportUpTo]
  obtain ⟨same, reported, passage⟩ := announceAll_passage faithful (Mode.transitions sh.reported seen)
    { sh with reported := seen, system := s }
  rw [reported]
  exact ⟨same, counting.trans passage⟩

theorem afterForeground_passage (faithful : k.Faithful history) (status : Termination) (sh : Shell σ) :
    (sh.afterForeground k status).state = sh.state.recordStatus status ∧
      Passage (history sh.system)
        (deathNotice status ++ modeReport sh.reported (sh.afterForeground k status).reported)
        (history (sh.afterForeground k status).system) := by
  cases status with
  | exited code => exact reportModes_passage faithful (sh.record (.exited code))
  | signaled signal =>
      obtain ⟨same, passage⟩ := reportModes_passage faithful
        ((sh.record (.signaled signal)).say k (Termination.signaled signal).describe)
      exact ⟨same, (say_passage faithful _ (sh.record (.signaled signal))).trans passage⟩

/-- What the shell makes of the outcome of a launch, and the shell that is left. -/
def Shell.settleLaunch (k : Kernel σ) (sh : Shell σ) (t : σ) :
    Except ProcessFailure Launch → Except Failure Flow × Shell σ
  | .error e => (.error (.process e), { sh with system := t })
  | .ok (.foreground _ status) => (.ok .proceed, Shell.afterForeground k status { sh with system := t })
  | .ok (.background pid finished) =>
      (.ok .proceed, Shell.afterBackground k pid finished { sh with system := t })

/-- A launch is one reading, a launch in the mode that was read, and what is told of it. -/
theorem launchCommand_eq {sh : Shell σ} {seen : UInt64} {s : σ} (read : k.toggles sh.system = (seen, s))
    (c : Command) :
    sh.launchCommand k c =
      (launch k c (ModeSwitch.isForegroundOnly { toggles := seen }) s).map fun started =>
        sh.settleLaunch k started.2 started.1 := by
  simp only [Shell.launchCommand, read]
  rcases launch k c (ModeSwitch.isForegroundOnly { toggles := seen }) s with _ | ⟨_ | _ | _, t⟩ <;>
    rfl

/-- A launch that comes back has read the count, launched and settled. -/
theorem launchCommand_eq_some {c : Command} {sh : Shell σ} {reached : Except Failure Flow × Shell σ}
    (launched : sh.launchCommand k c = some reached) :
    ∃ seen s outcome t, k.toggles sh.system = (seen, s) ∧
      launch k c (ModeSwitch.isForegroundOnly { toggles := seen }) s = some (outcome, t) ∧
      sh.settleLaunch k t outcome = reached := by
  rcases counted : k.toggles sh.system with ⟨seen, s⟩
  rw [launchCommand_eq counted, Option.map_eq_some_iff] at launched
  obtain ⟨⟨outcome, t⟩, started, settled⟩ := launched
  exact ⟨seen, s, outcome, t, rfl, started, settled⟩

/-- The calls of a launch that comes back are the reading and those of launching in the mode that was read. -/
theorem launchCommand_launching (faithful : k.Faithful history) {c : Command} {sh : Shell σ}
    {reached : Except Failure Flow × Shell σ} (launched : sh.launchCommand k c = some reached) :
    ∃ seen s outcome calls t, k.toggles sh.system = (seen, s) ∧
      Launching c (ModeSwitch.isForegroundOnly { toggles := seen }) calls outcome ∧
      Passage (history sh.system) (.counted seen :: calls) (history t) ∧
      reached = sh.settleLaunch k t outcome := by
  obtain ⟨seen, s, outcome, t, counted, started, settled⟩ := launchCommand_eq_some launched
  have counting := faithful.toggles sh.system
  simp only [counted] at counting
  obtain ⟨calls, launching, passage⟩ := launch_passage faithful started
  exact ⟨seen, s, outcome, calls, t, counted, launching, counting.trans passage, settled.symm⟩

/-- What is told after a launch: only counts are read and lines written. -/
def Event.IsAside (event : Event) : Prop :=
  (∃ seen, event = .counted seen) ∨ ∃ stream text, event = .wrote stream text

theorem Event.IsAside.makes {call : Event} (aside : call.IsAside) : call.makes = none := by
  rcases aside with ⟨_, rfl⟩ | ⟨_, _, rfl⟩ <;> rfl

/-- What is told behind a foreground program is told aside. -/
theorem isAside_of_mem_aftermath {status : Termination} {reported seen : UInt64} {call : Event}
    (member : call ∈ deathNotice status ++ modeReport reported seen) : call.IsAside := by
  rcases List.mem_append.1 member with death | modes
  · cases status with
    | exited code => simp [deathNotice] at death
    | signaled signal => exact .inr ⟨_, _, List.mem_singleton.1 death⟩
  · rcases List.mem_cons.1 modes with rfl | notice
    · exact .inl ⟨_, rfl⟩
    · obtain ⟨mode, -, rfl⟩ := List.mem_map.1 notice
      exact .inr ⟨_, _, rfl⟩

/-- What follows on a launch, once it has come to something, is writing and reading the count. -/
theorem settleLaunch_passage (faithful : k.Faithful history) (sh : Shell σ) (t : σ)
    (outcome : Except ProcessFailure Launch) :
    ∃ told, (∀ call ∈ told, call.IsAside) ∧
      Passage (history t) told (history (sh.settleLaunch k t outcome).2.system) := by
  cases outcome with
  | error e => exact ⟨[], by simp, .refl _⟩
  | ok launched =>
      cases launched with
      | foreground pid status =>
          obtain ⟨-, telling⟩ := afterForeground_passage faithful status { sh with system := t }
          exact ⟨_, fun call => isAside_of_mem_aftermath, telling⟩
      | background pid finished =>
          have naming := say_passage faithful s!"background pid is {pid}" { sh with system := t }
          cases finished with
          | none => exact ⟨_, by simp [Event.said, Event.IsAside], naming⟩
          | some status =>
              exact ⟨_, by simp [Event.said, Event.IsAside], naming.trans (say_passage faithful _ _)⟩

/-- How a launch comes to the child that it makes, by the count that it reads first and the system in which
the child has been waited for or asked after. -/
inductive Makes (k : Kernel σ) (history : σ → History) (c : Command) (sh : Shell σ) (plan : LaunchPlan)
    (pid : Pid) (seen : UInt64) (t : σ) : Except ProcessFailure Launch → Prop where
  | foreground (interruptions : Nat) (how : Ending)
      (waited : runsInBackground c (ModeSwitch.isForegroundOnly { toggles := seen }) = false)
      (front : plan.foreground = true)
      (passage : Passage (history sh.system)
        (.counted seen :: .forked plan pid :: waits pid interruptions (.changed pid how.word)) (history t)) :
      Makes k history c sh plan pid seen t (how.verdict.map (.foreground pid))
  | background {result : Except ProcessFailure (Option Termination)} (answer : WaitAnswer)
      (honoured : runsInBackground c (ModeSwitch.isForegroundOnly { toggles := seen }) = true)
      (behind : plan.foreground = false)
      (passage : Passage (history sh.system)
        [.counted seen, .forked plan pid, .polled (.only pid) answer] (history t)) :
      Makes k history c sh plan pid seen t (result.map (.background pid))

/-- A launch in which a child is made makes it in one of two ways, and then settles. -/
theorem launchCommand_makes (faithful : k.Faithful history) {c : Command} {sh sh' : Shell σ}
    {result : Except Failure Flow} {events : List Event} {plan : LaunchPlan} {pid : Pid}
    (launched : sh.launchCommand k c = some (result, sh'))
    (happened : history sh'.system = history sh.system ++ events)
    (made : .forked plan pid ∈ events) :
    ∃ seen s outcome t, k.toggles sh.system = (seen, s) ∧ Makes k history c sh plan pid seen t outcome ∧
      (result, sh') = sh.settleLaunch k t outcome := by
  obtain ⟨seen, s, outcome, calls, t, counted, launching, passage, settled⟩ :=
    launchCommand_launching faithful launched
  obtain ⟨told, aside, telling⟩ := settleLaunch_passage faithful sh t outcome
  rw [← settled] at telling
  have forked : .forked plan pid ∈ calls := by
    have among : .forked plan pid ∈ .counted seen :: calls ++ told := by
      rw [← (passage.trans telling).filter_eq happened]
      exact List.mem_filter.2 ⟨made, rfl⟩
    rcases List.mem_append.1 among with here | there
    · exact (List.mem_cons.1 here).resolve_left (by simp)
    · simpa [Event.makes] using (aside _ there).makes
  refine ⟨seen, s, outcome, t, counted, ?_, settled⟩
  cases launching with
  | unplanned => simp at forked
  | unforked => simp at forked
  | background honoured planned understood there =>
      obtain ⟨rfl, rfl⟩ := eq_of_forked_mem forked (by simp [Event.makes])
      exact .background _ honoured (LaunchPlan.foreground_of_ofCommand planned) passage
  | @foreground other number interruptions how waited planned =>
      obtain ⟨rfl, rfl⟩ := eq_of_forked_mem forked fun call => makes_of_mem_waits
      exact .foreground interruptions how waited (LaunchPlan.foreground_of_ofCommand planned) passage

/-- What is told after a launch makes of its calls one of the six things that a launch comes to. -/
theorem Launching.launched (faithful : k.Faithful history) {c : Command} {foregroundOnly : Bool}
    {calls : List Event} {outcome : Except ProcessFailure Launch}
    (launching : Launching c foregroundOnly calls outcome) (sh : Shell σ) (t : σ) :
    ∃ told, (∀ call ∈ told, call.IsAside) ∧
      Launched sh.state (calls ++ told) (sh.settleLaunch k t outcome).2.state ∧
      Passage (history t) told (history (sh.settleLaunch k t outcome).2.system) := by
  cases launching with
  | unplanned refusal => exact ⟨[], by simp, .refused, .refl _⟩
  | unforked reason => exact ⟨[], by simp, .refused, .refl _⟩
  | @background plan pid answer result honoured planned understood there =>
      have behind : plan.foreground = false := LaunchPlan.foreground_of_ofCommand planned
      cases result with
      | error e =>
          obtain ⟨how, nameless, rfl⟩ := understood.eq_of_error.resolve_left there
          exact ⟨[], by simp, .unread pid how behind nameless, .refl _⟩
      | ok finished =>
          have naming := say_passage faithful s!"background pid is {pid}" { sh with system := t }
          cases finished with
          | none =>
              exact ⟨_, by simp [Event.announcement, Event.said, Event.IsAside],
                .running pid behind understood.collects_of_ok_none, naming⟩
          | some status =>
              obtain ⟨how, named, rfl, rfl⟩ := understood.eq_of_ok_some
              exact ⟨_, by simp [Event.announcement, Event.report, Event.said, Event.IsAside], .prompt pid how behind named,
                naming.trans (say_passage faithful _ _)⟩
  | @foreground plan pid interruptions how waited planned =>
      have front : plan.foreground = true := LaunchPlan.foreground_of_ofCommand planned
      cases named : how.isNamed with
      | true =>
          rw [Ending.verdict_of_isNamed named]
          obtain ⟨same, telling⟩ := afterForeground_passage faithful how.status { sh with system := t }
          refine ⟨_, fun call => isAside_of_mem_aftermath, ?_, telling⟩
          change Launched sh.state _ (Shell.afterForeground k how.status { sh with system := t }).state
          rw [same]
          exact .waited pid how interruptions _ _ front named
      | false =>
          rw [Ending.verdict_of_not_isNamed named]
          refine ⟨[], by simp, ?_, .refl _⟩
          rw [List.append_nil]
          exact .lost pid how interruptions front named

/-- The decision to launch a program comes to one of six things. -/
theorem launchCommand_launched (faithful : k.Faithful history) {c : Command} {sh sh' : Shell σ}
    {result : Except Failure Flow} (launched : sh.launchCommand k c = some (result, sh')) :
    ∃ seen calls, Launched sh.state calls sh'.state ∧
      Passage (history sh.system) (.counted seen :: calls) (history sh'.system) := by
  obtain ⟨seen, s, outcome, calls, t, -, launching, passage, settled⟩ :=
    launchCommand_launching faithful launched
  obtain ⟨told, -, comes, telling⟩ := launching.launched faithful sh t
  rw [← settled] at comes telling
  exact ⟨seen, calls ++ told, comes, passage.trans telling⟩

/-- A directory that is entered is one call. -/
theorem enter_ok (faithful : k.Faithful history) {target : Text.Bytes} {s s' : σ}
    (entered : Shell.enter k target s = (.ok (), s')) :
    Passage (history s) [.moved target] (history s') := by
  rw [Shell.enter] at entered
  split at entered
  · simp at entered
  · rcases changed : k.changeDirectory target s with ⟨_ | _, t⟩
    · simp [changed] at entered
    · obtain ⟨-, rfl⟩ := by simpa only [changed, Prod.mk.injEq] using entered
      exact faithful.changeDirectory_ok changed

/-- A directory that is not entered is none. -/
theorem enter_error (faithful : k.Faithful history) {target : Text.Bytes} {cause : IoCause} {s s' : σ}
    (entered : Shell.enter k target s = (.error cause, s')) : Passage (history s) [] (history s') := by
  rw [Shell.enter] at entered
  split at entered
  · obtain ⟨-, rfl⟩ := Prod.mk.inj entered
    exact .refl _
  · rcases changed : k.changeDirectory target s with ⟨_ | _, t⟩
    · obtain ⟨-, rfl⟩ := by simpa only [changed, Prod.mk.injEq] using entered
      exact faithful.changeDirectory_error changed
    · simp [changed] at entered

/-- A builtin does nothing, changes the directory or tells the last status. -/
theorem runBuiltin_deed (faithful : k.Faithful history) (text : String) {builtin : Builtin}
    {arguments : List String} {sh sh' : Shell σ} {result : Except DirectoryFailure Flow}
    (ran : sh.runBuiltin k builtin arguments = (result, sh')) :
    ∃ calls, Deed sh.state (.line text) calls sh'.state ∧
      Passage (history sh.system) calls (history sh'.system) ∧ ∀ call ∈ calls, call.IsPlain := by
  cases builtin with
  | exit =>
      obtain ⟨-, rfl⟩ := Prod.mk.inj ran
      exact ⟨[], .idle text, .refl _, by simp⟩
  | status =>
      obtain ⟨-, rfl⟩ := Prod.mk.inj ran
      exact ⟨_, .told text, say_passage faithful _ sh,
        by simp [Event.said, Event.IsPlain, Event.makes, Event.collects]⟩
  | cd =>
      simp only [Shell.runBuiltin, Shell.changeDirectory] at ran
      cases aimed : Shell.directoryTarget arguments (Shell.home k sh.system) with
      | error e =>
          simp only [aimed] at ran
          obtain ⟨-, rfl⟩ := Prod.mk.inj ran
          exact ⟨[], .idle text, .refl _, by simp⟩
      | ok target =>
          rcases entered : Shell.enter k target sh.system with ⟨cause | _, t⟩
          · simp only [aimed, entered] at ran
            obtain ⟨-, rfl⟩ := Prod.mk.inj ran
            exact ⟨[], .idle text, enter_error faithful entered, by simp⟩
          · simp only [aimed, entered] at ran
            obtain ⟨-, rfl⟩ := Prod.mk.inj ran
            exact ⟨_, .moved text target _, enter_ok faithful entered,
              by simp [Event.IsPlain, Event.makes, Event.collects]⟩

theorem executeLine_deed (faithful : k.Faithful history) {text : String} {sh sh' : Shell σ}
    {result : Except Failure Flow} (executed : sh.executeLine k text = some (result, sh')) :
    ∃ calls, Deed sh.state (.line text) calls sh'.state ∧
      Passage (history sh.system) calls (history sh'.system) := by
  rw [Shell.executeLine] at executed
  split at executed
  · obtain ⟨-, rfl⟩ := by simpa only [Option.some.injEq, Prod.mk.injEq] using executed
    exact ⟨[], .idle text, .refl _⟩
  · obtain ⟨-, rfl⟩ := by simpa only [Option.some.injEq, Prod.mk.injEq] using executed
    exact ⟨[], .idle text, .refl _⟩
  · split at executed
    · obtain ⟨-, rfl⟩ := by simpa only [Option.some.injEq, Prod.mk.injEq] using executed
      exact ⟨[], .idle text, .refl _⟩
    · rw [Shell.dispatch] at executed
      split at executed
      · split at executed
        all_goals
          next ran =>
          obtain ⟨-, rfl⟩ := by simpa only [Option.some.injEq, Prod.mk.injEq] using executed
          obtain ⟨calls, deed, passage, -⟩ := runBuiltin_deed faithful text ran
          exact ⟨calls, deed, passage⟩
      · obtain ⟨seen, calls, launched, passage⟩ := launchCommand_launched faithful executed
        exact ⟨_, .launched text seen launched, passage⟩

/-- A line by which a child is made launches its command, with the marks replaced. -/
theorem executeLine_launches (faithful : k.Faithful history) {text : String} {sh sh' : Shell σ}
    {result : Except Failure Flow} {events : List Event} {plan : LaunchPlan} {pid : Pid}
    (executed : sh.executeLine k text = some (result, sh'))
    (happened : history sh'.system = history sh.system ++ events)
    (made : .forked plan pid ∈ events) :
    ∃ c, Command.parse text = .ok (some c) ∧
      sh.launchCommand k (c.substitutePid (toString sh.state.pid)) = some (result, sh') := by
  have barren {calls : List Event} (passage : Passage (history sh.system) calls (history sh'.system))
      (without : ∀ call ∈ calls, call.makes = none) : False := by
    have among : .forked plan pid ∈ calls := by
      rw [← passage.filter_eq happened]
      exact List.mem_filter.2 ⟨made, rfl⟩
    simpa [Event.makes] using without _ among
  rw [Shell.executeLine] at executed
  split at executed
  · obtain ⟨-, rfl⟩ := by simpa only [Option.some.injEq, Prod.mk.injEq] using executed
    exact (barren (.refl _) (by simp)).elim
  · obtain ⟨-, rfl⟩ := by simpa only [Option.some.injEq, Prod.mk.injEq] using executed
    exact (barren (.refl _) (by simp)).elim
  · next c parsed =>
    split at executed
    · obtain ⟨-, rfl⟩ := by simpa only [Option.some.injEq, Prod.mk.injEq] using executed
      exact (barren (.refl _) (by simp)).elim
    · rw [Shell.dispatch] at executed
      split at executed
      · split at executed
        all_goals
          next ran =>
          obtain ⟨-, rfl⟩ := by simpa only [Option.some.injEq, Prod.mk.injEq] using executed
          obtain ⟨calls, -, passage, plain⟩ := runBuiltin_deed faithful text ran
          exact (barren passage fun call member => (plain call member).1).elim
      · exact ⟨c, parsed, executed⟩

theorem reportCollected_passage (faithful : k.Faithful history) (collected : List Collected)
    (sh : Shell σ) :
    (collected.foldl (Shell.reportCollected k) sh).state =
        collected.foldl ShellState.settle sh.state ∧
      Passage (history sh.system) (collected.map .report)
        (history (collected.foldl (Shell.reportCollected k) sh).system) := by
  induction collected generalizing sh with
  | nil => exact ⟨rfl, .refl _⟩
  | cons child rest ih =>
      obtain ⟨same, passage⟩ := ih (sh.reportCollected k child)
      exact ⟨same, (say_passage faithful child.describe { sh with state := sh.state.settle child }).trans
        passage⟩

theorem reportFinished_deed (faithful : k.Faithful history) (sh : Shell σ) :
    ∃ calls, Deed sh.state .reportFinished calls (sh.reportFinished k).2.state ∧
      Passage (history sh.system) calls (history (sh.reportFinished k).2.system) := by
  rcases swept : sweep k sh.system with ⟨collected, s⟩
  obtain ⟨calls, sweeping, passage⟩ := sweep_passage faithful swept
  obtain ⟨same, telling⟩ := reportCollected_passage faithful collected { sh with system := s }
  simp only [Shell.reportFinished, swept]
  rw [same]
  exact ⟨_, .swept sweeping, passage.trans telling⟩

/-- What a shutdown notes before it stops so many children. -/
def shutdownNote (count : Nat) : Diagnostics.Note :=
  { level := .info
    origin := Shell.origin
    text := s!"terminating {count} background children" }

/-- A shutdown with children left is a stop of them. -/
theorem shutdown_eq (k : Kernel σ) {sh : Shell σ} (some : sh.state.background ≠ []) :
    sh.shutdown k =
      (stopAll k sh.state.background Shell.shutdownGrace
          (k.note (shutdownNote sh.state.background.length) sh.system)).map fun ended =>
        { sh with state := { sh.state with background := [] }, system := ended.2 } := by
  simp only [Shell.shutdown, ShellState.takeBackground, List.isEmpty_iff, some, if_false, Shell.inform,
    shutdownNote]
  cases stopAll k sh.state.background Shell.shutdownGrace _ <;> rfl

theorem shutdown_deed (faithful : k.Faithful history) {sh sh' : Shell σ}
    (stopped : sh.shutdown k = some sh') :
    ∃ calls, Deed sh.state .shutdown calls sh'.state ∧
      Passage (history sh.system) calls (history sh'.system) := by
  by_cases nobody : sh.state.background = []
  · simp only [Shell.shutdown, ShellState.takeBackground, nobody, List.isEmpty_nil, if_true,
      Option.some.injEq] at stopped
    subst stopped
    have stopping : Stopped sh.state.background [] := by
      rw [nobody]
      exact .mk (.done []) .done
    simpa only [nobody] using ⟨[], Deed.stopped stopping, Passage.refl _⟩
  · rw [shutdown_eq k nobody] at stopped
    obtain ⟨⟨killed, s⟩, ended, rfl⟩ := Option.map_eq_some_iff.1 stopped
    obtain ⟨calls, stopping, passage⟩ := stopAll_passage faithful ended
    exact ⟨calls, .stopped stopping, (faithful.note _ sh.system).trans passage⟩

/-- A shutdown comes to an end where nothing survives the signal that kills. -/
theorem shutdown_isSome (faithful : k.Faithful history) (deadly : k.IsDeadly history) (sh : Shell σ) :
    (sh.shutdown k).isSome = true := by
  by_cases nobody : sh.state.background = []
  · simp [Shell.shutdown, ShellState.takeBackground, nobody]
  · rw [shutdown_eq k nobody, Option.isSome_map]
    exact stopAll_isSome faithful deadly _ _ _

/-- An operation comes to a deed. -/
theorem perform_deed (faithful : k.Faithful history) {operation : Operation} {sh sh' : Shell σ}
    (performed : operation.perform k sh = some sh') :
    ∃ calls, Deed sh.state operation calls sh'.state ∧
      Passage (history sh.system) calls (history sh'.system) := by
  cases operation with
  | line text =>
      obtain ⟨⟨result, reached⟩, executed, rfl⟩ := Option.map_eq_some_iff.1 performed
      exact executeLine_deed faithful executed
  | reportModes =>
      obtain rfl := Option.some.inj performed
      obtain ⟨same, passage⟩ := reportModes_passage faithful sh
      rw [same]
      exact ⟨_, .announced _ _, passage⟩
  | reportFinished =>
      obtain rfl := Option.some.inj performed
      exact reportFinished_deed faithful sh
  | shutdown => exact shutdown_deed faithful performed

end

end JobShell
