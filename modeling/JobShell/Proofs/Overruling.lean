/-
Module: JobShell.Proofs.Overruling
Purpose: How the mode decides over the background marker of a command.  The count of toggles is read once, before
  anything else; by its parity the marker holds or is overruled, and an overruled command runs as the same
  command without the marker.  The child is set up and treated afterwards by that one decision, whatever suspend
  signals arrive behind the reading.
Main exports: ReadsFirst, Attended, Unattended, marker_overruled
-/
import JobShell.Proofs.Blocking
import JobShell.Proofs.ModeNotices

namespace JobShell

variable {σ : Type} {k : Kernel σ} {history : σ → History}

/-! ### The reading -/

/-- How the count is read: what happens by itself before it is the `early` part, the count is that of all suspend
signals that have arrived by then, and what happens by itself behind it is no part of it. -/
structure ReadsFirst (k : Kernel σ) (history : σ → History) (s : σ) (early : List Event) (seen : UInt64)
    (t : σ) : Prop where
  read : k.toggles s = (seen, t)
  own : ∀ event ∈ early, event.isCall = false
  counts : seen = UInt64.ofNat (History.suspensions (history s ++ early))
  passage : Passage (history s ++ early ++ [.counted seen]) [] (history t)

theorem exists_readsFirst (faithful : k.Faithful history) (s : σ) :
    ∃ early seen t, ReadsFirst k history s early seen t := by
  obtain ⟨g, ⟨early, rfl, -, own⟩, counts, passage⟩ := (faithful.toggles s).cons
  refine ⟨early, _, _, rfl, fun event member => ?_, counts, passage⟩
  simpa using List.filter_eq_nil_iff.1 own event member

/-- The count is kept in so many bits that its parity is that of the number counted, however large it is. -/
theorem isForegroundOnly_ofNat_iff (count : Nat) :
    ModeSwitch.isForegroundOnly { toggles := UInt64.ofNat count } = true ↔ Odd count := by
  rw [ModeSwitch.isForegroundOnly, ModeSwitch.mode, beq_iff_eq, afterToggles_eq_foregroundOnly_iff,
    UInt64.toNat_ofNat', Nat.odd_iff, Nat.odd_iff]
  omega

namespace ReadsFirst

variable {s t : σ} {early : List Event} {seen : UInt64}

theorem isForegroundOnly_of_odd (reads : ReadsFirst k history s early seen t)
    (odd : Odd (History.suspensions (history s ++ early))) :
    ModeSwitch.isForegroundOnly { toggles := seen } = true := by
  rw [reads.counts]
  exact (isForegroundOnly_ofNat_iff _).2 odd

theorem isForegroundOnly_of_even (reads : ReadsFirst k history s early seen t)
    (even : Even (History.suspensions (history s ++ early))) :
    ModeSwitch.isForegroundOnly { toggles := seen } = false := by
  rw [reads.counts, Bool.eq_false_iff, ne_eq, isForegroundOnly_ofNat_iff]
  exact Nat.not_odd_iff_even.2 even

end ReadsFirst

/-! ### The launch -/

/-- A command whose marker is overruled is launched as one without. -/
theorem launch_overruled (c : Command) (foregroundOnly : Bool) (s : σ) :
    launch k c true s = launch k { c with background := false } foregroundOnly s := by
  have overruled : runsInBackground c true = false := by simp [runsInBackground]
  simp only [launch, overruled]
  rfl

/-- A launch in the background always comes back. -/
theorem launch_isSome {c : Command} {foregroundOnly : Bool}
    (honoured : runsInBackground c foregroundOnly = true) (s : σ) :
    (launch k c foregroundOnly s).isSome = true := by
  rw [Option.isSome_iff_ne_none]
  intro stuck
  obtain ⟨foreground, -⟩ := launch_eq_none stuck
  simp [honoured] at foreground

/-- A launch that comes back comes to one of the six things, and its child was made by the plan for the mode that
was read. -/
theorem launchCommand_course (faithful : k.Faithful history) {c : Command} {sh sh' : Shell σ} {seen : UInt64}
    {s : σ} {result : Except Failure Flow} (read : k.toggles sh.system = (seen, s))
    (launched : sh.launchCommand k c = some (result, sh')) :
    ∃ calls, Launched sh.state calls sh'.state ∧ Passage (history s) calls (history sh'.system) ∧
      ∀ plan pid, .forked plan pid ∈ calls →
        LaunchPlan.ofCommand c (runsInBackground c (ModeSwitch.isForegroundOnly { toggles := seen })) =
          .ok plan := by
  obtain ⟨_, _, outcome, t, counted, started, settled⟩ := launchCommand_eq_some launched
  obtain ⟨rfl, rfl⟩ := Prod.mk.inj (read.symm.trans counted)
  obtain ⟨calls, launching, passage⟩ := launch_passage faithful started
  obtain ⟨told, aside, comes, telling⟩ := launching.launched faithful sh t
  rw [settled] at comes telling
  refine ⟨calls ++ told, comes, passage.trans telling, fun plan pid made => ?_⟩
  rcases List.mem_append.1 made with here | there
  · exact launching.planned here
  · simpa [Event.makes] using (aside _ there).makes

/-- The marker counts for nothing but a launch. -/
theorem dispatch_congr {c : Command} {sh : Shell σ}
    (same : sh.launchCommand k c = sh.launchCommand k { c with background := false }) :
    sh.dispatch k c = sh.dispatch k { c with background := false } := by
  simp only [Shell.dispatch, Command.program, Command.arguments, same]

/-! ### The child -/

/-- A child that is set up for the foreground, waited for until it is handed over, and not remembered.  Nothing is
asked of the system in between, and behind it only counts are read and lines written. -/
structure Attended (state state' : ShellState) (calls : List Event) (plan : LaunchPlan) (pid : Pid) :
    Prop where
  front : plan.foreground = true
  waited : ∃ interrupted how told, (∀ call ∈ told, Event.IsAside call) ∧
    calls = .forked plan pid :: waits pid interrupted (.changed pid (Ending.word how)) ++ told
  untracked : state'.background = state.background

/-- A child that is set up for the background and asked after once, and then remembered unless it was handed over.
Only lines are written behind it, and nobody is waited for. -/
structure Unattended (state state' : ShellState) (calls : List Event) (plan : LaunchPlan) (pid : Pid) :
    Prop where
  behind : plan.foreground = false
  asked : ∃ answer told, (∀ call ∈ told, ∃ line, call = Event.said line) ∧
    calls = .forked plan pid :: .polled (.only pid) answer :: told ∧
    state'.background =
      if answer.collects = none then state.background ++ [pid] else state.background

/-- Whatever a launch comes to, its child is attended to or not by what it was set up for. -/
theorem Launched.attended {state state' : ShellState} {calls : List Event} {plan : LaunchPlan} {pid : Pid}
    (launched : Launched state calls state') (made : .forked plan pid ∈ calls) :
    plan.foreground = true ∧ Attended state state' calls plan pid ∨
      plan.foreground = false ∧ Unattended state state' calls plan pid := by
  cases launched with
  | refused => simp at made
  | @waited other number how interrupted reported seen front named =>
      obtain ⟨rfl, rfl⟩ := eq_of_forked_mem made fun call member =>
        (List.mem_append.1 member).elim makes_of_mem_waits
          fun telling => (isAside_of_mem_aftermath telling).makes
      exact .inl ⟨front, front, ⟨interrupted, how, _, fun _ => isAside_of_mem_aftermath, rfl⟩, rfl⟩
  | @lost other number how interrupted front nameless =>
      obtain ⟨rfl, rfl⟩ := eq_of_forked_mem made fun call => makes_of_mem_waits
      exact .inl ⟨front, front, ⟨interrupted, how, [], by simp, by simp⟩, rfl⟩
  | @running other answer number behind still =>
      obtain ⟨rfl, rfl⟩ := eq_of_forked_mem made (by simp [Event.makes, Event.announcement, Event.said])
      exact .inr ⟨behind, behind, answer, [.announcement pid], by simp [Event.announcement], rfl,
        by simp [still, ShellState.track]⟩
  | @prompt other number how behind named =>
      obtain ⟨rfl, rfl⟩ := eq_of_forked_mem made
        (by simp [Event.makes, Event.announcement, Event.report, Event.said])
      exact .inr ⟨behind, behind, _, [.announcement pid, .report ⟨pid, how.status⟩],
        by simp [Event.announcement, Event.report], rfl, rfl⟩
  | @unread other number how behind nameless =>
      obtain ⟨rfl, rfl⟩ := eq_of_forked_mem made (by simp [Event.makes])
      exact .inr ⟨behind, behind, _, [], by simp, rfl, rfl⟩

/-! ### The marker -/

/-- One reading at the start of a launch decides over the marker of a command, whatever signals arrive behind it.
If the count is odd, the launch is that of the same command without the marker, and so are any two lines that hold
these commands.  If it is even, the launch comes back.  A launch that comes back makes its child by the plan for
the decision: odd, it is set up for the foreground and waited for; even, it is set up for the background, and
nobody is waited for.  A launch that never comes back waits for such a child in the foreground. -/
theorem marker_overruled (faithful : k.Faithful history) (sh : Shell σ) :
    ∃ early seen s, ReadsFirst k history sh.system early seen s ∧
      (∀ c : Command, c.background = true →
        (Odd (History.suspensions (history sh.system ++ early)) →
          sh.launchCommand k c = sh.launchCommand k { c with background := false }) ∧
        (Even (History.suspensions (history sh.system ++ early)) →
          (sh.launchCommand k c).isSome = true) ∧
        (∀ result sh', sh.launchCommand k c = some (result, sh') →
          ∃ calls, Launched sh.state calls sh'.state ∧ Passage (history s) calls (history sh'.system) ∧
            ∀ plan pid, .forked plan pid ∈ calls →
              Odd (History.suspensions (history sh.system ++ early)) ∧
                LaunchPlan.ofCommand { c with background := false } false = .ok plan ∧
                Attended sh.state sh'.state calls plan pid ∨
              Even (History.suspensions (history sh.system ++ early)) ∧
                LaunchPlan.ofCommand c true = .ok plan ∧
                Unattended sh.state sh'.state calls plan pid) ∧
        (sh.launchCommand k c = none →
          Odd (History.suspensions (history sh.system ++ early)) ∧
            ∃ plan pid count t, LaunchPlan.ofCommand { c with background := false } false = .ok plan ∧
              plan.foreground = true ∧
              Passage (history s) (.forked plan pid :: interruptions pid count) (history t) ∧
              k.await pid t = none)) ∧
      ∀ text text' c, Command.parse text = .ok (some c) →
        Command.parse text' = .ok (some { c with background := false }) →
        Odd (History.suspensions (history sh.system ++ early)) →
        sh.executeLine k text = sh.executeLine k text' := by
  obtain ⟨early, seen, s, reads⟩ := exists_readsFirst faithful sh.system
  have overruled (odd : Odd (History.suspensions (history sh.system ++ early))) (c : Command) :
      sh.launchCommand k c = sh.launchCommand k { c with background := false } := by
    rw [launchCommand_eq reads.read, launchCommand_eq reads.read, reads.isForegroundOnly_of_odd odd]
    exact congrArg _ (launch_overruled c true s)
  have honoured (even : Even (History.suspensions (history sh.system ++ early))) {c : Command}
      (marked : c.background = true) :
      runsInBackground c (ModeSwitch.isForegroundOnly { toggles := seen }) = true := by
    simp [runsInBackground, marked, reads.isForegroundOnly_of_even even]
  have returns (even : Even (History.suspensions (history sh.system ++ early))) {c : Command}
      (marked : c.background = true) : (sh.launchCommand k c).isSome = true := by
    rw [launchCommand_eq reads.read, Option.isSome_map]
    exact launch_isSome (honoured even marked) s
  refine ⟨early, seen, s, reads, fun c marked => ⟨fun odd => overruled odd c, fun even => returns even marked,
    ?children, ?stuck⟩, ?lines⟩
  case children =>
    intro result sh' launched
    obtain ⟨calls, comes, passage, planned⟩ := launchCommand_course faithful reads.read launched
    refine ⟨calls, comes, passage, fun plan pid made => ?_⟩
    have plans := planned plan pid made
    rcases Nat.even_or_odd (History.suspensions (history sh.system ++ early)) with even | odd
    · rw [honoured even marked] at plans
      rcases comes.attended made with ⟨front, -⟩ | ⟨-, unattended⟩
      · simp [LaunchPlan.foreground_of_ofCommand plans] at front
      · exact .inr ⟨even, plans, unattended⟩
    · have waited : runsInBackground c (ModeSwitch.isForegroundOnly { toggles := seen }) = false := by
        simp [runsInBackground, reads.isForegroundOnly_of_odd odd]
      rw [waited] at plans
      rcases comes.attended made with ⟨-, attended⟩ | ⟨behind, -⟩
      · exact .inl ⟨odd, plans, attended⟩
      · simp [LaunchPlan.foreground_of_ofCommand plans] at behind
  case stuck =>
    intro stuck
    refine ⟨Nat.not_even_iff_odd.1 fun even => ?_, ?_⟩
    · simpa [stuck] using returns even marked
    · rw [launchCommand_eq reads.read, Option.map_eq_none_iff] at stuck
      obtain ⟨plan, pid, count, t, planned, passage, never⟩ := launch_stuck faithful stuck
      exact ⟨plan, pid, count, t, planned, LaunchPlan.foreground_of_ofCommand planned, passage, never⟩
  case lines =>
    intro text text' c parsed parsed' odd
    rw [Shell.executeLine, Shell.executeLine, parsed, parsed']
    exact if_congr Iff.rfl rfl (dispatch_congr (overruled odd _))

/-- A shell that one suspend signal has reached runs a background command in the foreground, and remembers how it
ended and nobody in the background. -/
theorem marker_overruled_rehearsed :
    let sh := Rehearsal.shell { happened := [.suspended], endings := [.exited 3] }
    let c : Command := { argv := ["a"], background := true }
    sh.launchCommand Rehearsal.kernel c = sh.launchCommand Rehearsal.kernel { argv := ["a"] } ∧
      ∃ result sh', sh.launchCommand Rehearsal.kernel c = some (result, sh') ∧
        sh'.state.lastStatus = .exited 3 ∧ sh'.state.background = [] := by
  intro sh c
  obtain ⟨early, seen, s, reads, launches, -⟩ := marker_overruled Rehearsal.faithful sh
  have odd : Odd (History.suspensions (Rehearsal.happened sh.system ++ early)) := by
    rw [← isForegroundOnly_ofNat_iff, ← reads.counts, ← (Prod.mk.inj reads.read).1]
    decide
  refine ⟨(launches c rfl).1 odd, ?_⟩
  have returned : (sh.launchCommand Rehearsal.kernel c).isSome = true := by decide +kernel
  obtain ⟨⟨result, sh'⟩, launched⟩ := Option.isSome_iff_exists.1 returned
  refine ⟨result, sh', launched, ?_⟩
  have left : (sh.launchCommand Rehearsal.kernel c).map (fun reached =>
      (reached.2.state.lastStatus, reached.2.state.background)) = some (.exited 3, []) := by decide +kernel
  simpa [launched] using left

end JobShell
