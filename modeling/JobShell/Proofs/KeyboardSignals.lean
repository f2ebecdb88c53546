/-
Module: JobShell.Proofs.KeyboardSignals
Purpose: What the signals of the keyboard do, over whole runs.  Once the shell has armed itself an interrupt
  does nothing to it and a suspend signal is counted, whatever else happens; and every child starts its
  program with the suspend signal ignored, and with the interrupt ignored exactly if it is one of an honoured
  background command.
Main exports: Machine.IsUnarmed, Machine.IsArmed, IsArmed.trail, IsArmed.steady, IsArmed.child_starts,
  KeyboardHolds, MadeForLines, dispositions_hold
-/
import JobShell.Machine.Boot
import JobShell.Proofs.SettingUp
import JobShell.Proofs.Unfolding

namespace JobShell

namespace Machine

/-! ### A shell that has armed itself -/

/-- The shell has not armed itself; what it has been told about signals by those who started it is left
open. -/
structure IsUnarmed (m : Machine) : Prop extends m.HasShell where
  activity : m.shell.activity = .shell
  unregistered : m.actions = []
  idle : m.action = none

/-- The shell ignores interrupts, and handles suspend signals, which one action counts. -/
structure IsArmed (m : Machine) : Prop extends m.HasShell where
  activity : m.shell.activity = .shell
  ignores : m.shell.dispositions interrupt = .ignore
  handles : m.shell.dispositions suspendSignal = .handler
  single : m.actions.length = 1

variable {m m' : Machine}

/-- Every machine on which the shell is about to run is one with a shell that has not armed itself. -/
theorem boot_unarmed (plan : BootPlan) : (boot plan).IsUnarmed where
  numbered := ⟨by simp [boot], by simp [boot]⟩
  present := by simp [boot]
  activity := by simp [boot, shell, process?]
  unregistered := by simp [boot]
  idle := by simp [boot]

/-- Arming changes what the two signals do to the shell, and registers one action. -/
theorem IsUnarmed.arm_eq (unarmed : m.IsUnarmed) :
    m.arm =
      { (m.dispose interrupt .ignore).dispose suspendSignal .handler with
        actions := [1]
        action := some 1 } := by
  simp only [arm, ModeSwitch.install, unarmed.idle, signalActions, register]
  simp [dispose, modifyShell, modifyProcess, unarmed.unregistered]

/-- Whatever the shell was told about signals before, it is armed afterwards. -/
theorem IsUnarmed.armed (unarmed : m.IsUnarmed) : m.arm.IsArmed := by
  have changed {m : Machine} (has : m.HasShell) (signal : Nat) (what : Disposition) :
      (m.dispose signal what).HasShell ∧ (m.dispose signal what).shell =
        { m.shell with dispositions := m.shell.dispositions.set signal what } := by
    have retains : Retains (fun _ => True) (fun _ => False) (fun _ => False) m (m.dispose signal what) :=
      modifyProcess_retains m _ fun _ _ => .of_step trivial rfl
    exact ⟨(has.endures retains).1, has.shell_modifyShell fun _ => rfl⟩
  obtain ⟨between, ignoring⟩ := changed unarmed.toHasShell interrupt .ignore
  obtain ⟨⟨⟨distinct, below⟩, present⟩, handling⟩ := changed between suspendSignal .handler
  have shell : m.arm.shell = { m.shell with
      dispositions := (m.shell.dispositions.set interrupt .ignore).set suspendSignal .handler } := by
    rw [ignoring] at handling
    rw [unarmed.arm_eq]
    exact handling
  refine ⟨?_, ?_, ?_, ?_, ?_⟩
  · rw [unarmed.arm_eq]
    exact ⟨⟨distinct, below⟩, present⟩
  · rw [shell]
    exact unarmed.activity
  · rw [shell]
    rfl
  · rw [shell]
    rfl
  · rw [unarmed.arm_eq]
    rfl

/-! ### Strokes around an armed shell -/

theorem IsArmed.hosts (armed : m.IsArmed) : m.Hosts :=
  ⟨armed.toHasShell, armed.activity⟩

/-- Every stroke leaves an armed shell armed. -/
theorem IsArmed.strikes {stroke : Stroke} (armed : m.IsArmed) (strikes : Strikes m stroke m') :
    m'.IsArmed := by
  obtain ⟨has, endures⟩ := armed.hosts.endures strikes
  have dispositions : m'.shell.dispositions = m.shell.dispositions := endures.dispositions id
  have retains : Retains (fun _ => True) (fun _ => True) (fun _ => True) m m' :=
    strikes.retains (fun _ _ => trivial) (fun _ _ _ => trivial) fun _ => trivial
  refine ⟨has, ?_, ?_, ?_, ?_⟩
  · exact (endures.activity id).trans armed.activity
  · rw [dispositions]
    exact armed.ignores
  · rw [dispositions]
    exact armed.handles
  · rw [retains.actions]
    exact armed.single

theorem IsArmed.trail {trail : List (Stroke × Machine)} (armed : m.IsArmed)
    (went : Trail m trail m') : m'.IsArmed := by
  induction went with
  | here => exact armed
  | next strikes _ ih => exact ih (armed.strikes strikes)

/-! ### Signals at the shell -/

/-- An interrupt does nothing to an armed shell, whatever state it is in. -/
theorem IsArmed.deliver_interrupt (armed : m.IsArmed) :
    m.deliver m.shellNumber interrupt = .ok m := by
  have unheld : m.hold m.shell interrupt = m := by simp [hold, armed.ignores]
  have unacted : m.act m.shell interrupt = m := by simp [act, armed.ignores]
  rw [deliver, armed.process?_eq]
  dsimp only
  rw [unheld, unacted]
  split_ifs with gone deadly going
  · rfl
  · simp [interrupt, killSignal, stopSignal] at deadly
  · simp [interrupt, continueSignal] at going
  · rfl
  · rfl

/-- A suspend signal that takes effect on an armed shell is counted once. -/
theorem IsArmed.act_suspend (armed : m.IsArmed) :
    m.act m.shell suspendSignal = { m with toggles := m.toggles + 1 } := by
  obtain ⟨action, single⟩ := List.length_eq_one_iff.1 armed.single
  rw [act, armed.handles]
  simp [deliverHandled, armed.activity, single, ModeSwitch.countSignal, ModeSwitch.toggle]

/-- A suspend signal at an armed shell takes effect, unless the shell has ended by another signal or is
stopped by one: then it is lost or kept. -/
theorem IsArmed.deliver_suspend (armed : m.IsArmed) :
    m.deliver m.shellNumber suspendSignal =
      .ok (if m.shell.isAlive = false then m
        else if m.shell.stopped then m.hold m.shell suspendSignal
        else { m with toggles := m.toggles + 1 }) := by
  rw [deliver, armed.process?_eq]
  dsimp only
  rw [armed.act_suspend]
  split_ifs <;> simp_all [suspendSignal, killSignal, stopSignal, continueSignal]

/-- A suspend signal neither ends nor stops an armed shell. -/
theorem IsArmed.suspend_keeps (armed : m.IsArmed)
    (delivered : m.deliver m.shellNumber suspendSignal = .ok m') :
    m'.shell.ended = m.shell.ended ∧ m'.shell.stopped = m.shell.stopped := by
  rw [armed.deliver_suspend] at delivered
  obtain rfl := Except.ok.inj delivered
  split_ifs with gone stopped
  · exact ⟨rfl, rfl⟩
  · rw [hold]
    split
    · exact ⟨rfl, rfl⟩
    · have held : (m.modifyShell fun q => { q with held := q.held ++ [suspendSignal] }).shell =
          { m.shell with held := m.shell.held ++ [suspendSignal] } :=
        armed.shell_modifyShell fun _ => rfl
      rw [armed.number]
      rw [modifyShell] at held
      rw [held]
      exact ⟨rfl, rfl⟩
  · exact ⟨rfl, rfl⟩

/-- The shell is ended or stopped by a signal other than those of the keyboard, if by anything. -/
theorem IsArmed.steady {stroke : Stroke} (armed : m.IsArmed) (strikes : Strikes m stroke m') :
    (m'.shell.ended = m.shell.ended ∧ m'.shell.stopped = m.shell.stopped) ∨
      ∃ signal, stroke = .signal m.shellNumber signal ∧ signal ≠ interrupt ∧
        signal ≠ suspendSignal := by
  by_cases hit : ∃ signal, stroke = .signal m.shellNumber signal
  · obtain ⟨signal, rfl⟩ := hit
    cases strikes with
    | signal delivered =>
        by_cases first : signal = interrupt
        · rw [first, armed.deliver_interrupt] at delivered
          exact .inl (Except.ok.inj delivered ▸ ⟨rfl, rfl⟩)
        · by_cases second : signal = suspendSignal
          · exact .inl (armed.suspend_keeps (second ▸ delivered))
          · exact .inr ⟨signal, rfl, first, second⟩
  · -- A stroke that is no signal at the shell leaves its fate as it is.
    obtain ⟨-, endures⟩ := armed.hosts.endures strikes
    rw [← armed.number] at hit
    exact .inl ⟨endures.ended id hit, endures.stopped id hit⟩

/-! ### Children of an armed shell -/

/-- A process is at the start of a program, with what it has said about the signals of the keyboard. -/
def Process.Starts (p : Process) (onInterrupt onSuspend : Disposition) : Prop :=
  ∃ program arguments, p.activity = .running program arguments ∧
    p.dispositions interrupt = onInterrupt ∧ p.dispositions suspendSignal = onSuspend

/-- A child that an armed shell has just made is like the shell, but for the plan that it has still to carry
out. -/
theorem IsArmed.of_mem_fork (armed : m.IsArmed) {plan : LaunchPlan} {p : Process}
    (member : p ∈ (m.fork plan).2.processes) (new : p.number = m.nextNumber) :
    p.activity = .setup plan ∧ p.dispositions = m.shell.dispositions := by
  rcases List.mem_append.1 member with before | made
  · have below := armed.numbered.below p before
    omega
  · rw [List.mem_singleton.1 made]
    exact ⟨rfl, rfl⟩

theorem ended_of_mem_finish {number : Nat} {word : Int} {q : Process}
    (member : q ∈ (m.finish number word).processes) (same : q.number = number) :
    q.ended = some word := by
  obtain ⟨adopted, -⟩ := List.mem_filter.1 member
  obtain ⟨r, later, rfl⟩ := List.mem_map.1 adopted
  obtain ⟨p, -, rfl⟩ := List.mem_map.1 later
  by_cases here : p.number = number
  · rw [if_pos here]
    split <;> rfl
  · rw [if_neg here] at same
    refine absurd ?_ here
    split at same <;> exact same

/-- What a process has become once it has been put back, unless it has ended. -/
theorem of_mem_conclude {number : Nat} {t : Task} {q : Process} (flowing : t.stalled = none)
    (member : q ∈ (m.conclude number t).processes) (same : q.number = number) :
    q.ended.isSome = true ∨
      (t.process.ended = none ∧ q.activity = t.process.activity ∧
        q.dispositions = t.process.dispositions) := by
  rw [conclude, flowing] at member
  dsimp only at member
  split at member
  · next word ended => exact .inl (by rw [ended_of_mem_finish member same]; rfl)
  · next living =>
    obtain ⟨p, -, rfl⟩ := List.mem_map.1 member
    by_cases here : p.number = number
    · rw [if_pos here]
      exact .inr ⟨living, rfl, rfl⟩
    · rw [if_neg here] at same
      exact absurd same here

/-- The first step of a child is to set itself up.  By then its plan and what it has said about signals are
those that it was made with, whatever signals have arrived at it and whatever others have done. -/
theorem IsArmed.child_starts (armed : m.IsArmed) {plan : LaunchPlan}
    {between : List (Stroke × Machine)} (went : Trail (m.fork plan).2 between m')
    (rested : ¬ Steps between m.nextNumber) {moved : Machine}
    (strikes : Strikes m' (.step m.nextNumber) moved) {q : Process} (member : q ∈ moved.processes)
    (child : q.number = m.nextNumber) :
    q.ended.isSome = true ∨ q.Starts (if plan.foreground then .default else .ignore) .ignore := by
  cases strikes with
  | step found ready =>
      rename_i p
      have number : p.number = m.nextNumber := number_of_process? found
      -- Since it was made the child has not taken a step, so it has kept what it was made with.
      obtain ⟨activity, dispositions⟩ :
          p.activity = .setup plan ∧ p.dispositions = m.shell.dispositions := by
        rcases went.retains.stems p (mem_of_process? found) with new | ⟨made, before, endures⟩
        · have next : (m.fork plan).2.nextNumber = m.nextNumber + 1 := rfl
          omega
        · have same : made.number = m.nextNumber := endures.number.symm.trans number
          have rests : ¬ Steps between made.number := same ▸ rested
          obtain ⟨planned, copied⟩ := armed.of_mem_fork before same
          exact ⟨(endures.activity rests).trans planned, (endures.dispositions rests).trans copied⟩
      have work : m'.work p = m'.conclude p.number (setUp (m'.taskOf p) plan) := by
        simp [work, stepProcess, activity]
      rw [work] at member
      obtain ⟨stalled, outcome⟩ := setUp_starts (m'.taskOf p) plan
      rcases of_mem_conclude stalled member (child.trans number.symm) with
        ended | ⟨living, doing, saying⟩
      · exact .inl ended
      · rcases outcome with failed | ⟨program, arguments, running, started⟩
        · simp [living] at failed
        · have ignores : p.dispositions interrupt = .ignore := by
            rw [dispositions]
            exact armed.ignores
          obtain ⟨onInterrupt, onSuspend⟩ := afterExec_prepareChild ignores plan.foreground
          refine .inr ⟨program, arguments, doing.trans running, ?_, ?_⟩
          · rw [saying, started]
            exact onInterrupt
          · rw [saying, started]
            exact onSuspend

/-! ### Runs -/

/-- What the signals of the keyboard do to the shell: an interrupt is ignored, whatever state the shell is in,
and a suspend signal is handled, which counts it once. -/
structure WithstandsKeyboard (m : Machine) : Prop where
  ignores : m.shell.dispositions interrupt = .ignore
  handles : m.shell.dispositions suspendSignal = .handler
  interrupted : m.deliver m.shellNumber interrupt = .ok m
  suspended : m.shell.isAlive = true → m.shell.stopped = false →
    m.deliver m.shellNumber suspendSignal = .ok { m with toggles := m.toggles + 1 }

theorem IsArmed.withstands (armed : m.IsArmed) : m.WithstandsKeyboard := by
  refine ⟨armed.ignores, armed.handles, armed.deliver_interrupt, ?_⟩
  intro alive awake
  rw [armed.deliver_suspend]
  simp [alive, awake]

/-- The first step of a child on a way ends it, or makes it a program that ignores suspend signals and does
with interrupts what is said. -/
def StartsOn (way : List (Stroke × Machine)) (number : Nat) (onInterrupt : Disposition) : Prop :=
  ∀ between moved onward, way = between ++ (.step number, moved) :: onward → ¬ Steps between number →
    ∀ p ∈ moved.processes, p.number = number →
      p.ended.isSome = true ∨ p.Starts onInterrupt .ignore

/-- What holds of the signals of the keyboard on a way.  At every moment the shell withstands them; no stroke
ends or stops the shell but the arrival of another signal; and each child of the shell starts a program that
ignores suspend signals, and interrupts too if it runs in the background, while in the foreground an interrupt
has its default. -/
structure KeyboardHolds (start : Machine) (way : List (Stroke × Machine)) : Prop where
  withstands : ∀ earlier later m, way = earlier ++ later → Trail start earlier m →
    m.WithstandsKeyboard
  steady : ∀ earlier stroke after later m, way = earlier ++ (stroke, after) :: later →
    Trail start earlier m →
      (after.shell.ended = m.shell.ended ∧ after.shell.stopped = m.shell.stopped) ∨
        ∃ signal, stroke = .signal m.shellNumber signal ∧ signal ≠ interrupt ∧
          signal ≠ suspendSignal
  starts : ∀ earlier plan number made later, way = earlier ++ (.fork plan number, made) :: later →
    StartsOn later number (if plan.foreground then .default else .ignore)

/-- Whatever happens from a machine on with an armed shell. -/
theorem IsArmed.keyboardHolds {start : Machine} {way : List (Stroke × Machine)}
    (armed : start.IsArmed) (went : Trail start way m) : KeyboardHolds start way := by
  refine ⟨?_, ?_, ?_⟩
  · intro earlier later m _ reached
    exact (armed.trail reached).withstands
  · rintro earlier stroke after later m rfl reached
    obtain ⟨there, before, on⟩ := went.split
    obtain rfl := reached.unique before
    cases on with
    | next strikes _ => exact (armed.trail reached).steady strikes
  · rintro earlier plan number made later rfl
    rintro between moved onward rfl rested p present child
    obtain ⟨m, reached, on⟩ := went.split
    cases on with
    | next strikes on =>
        cases strikes
        obtain ⟨m', passed, stepping⟩ := on.split
        cases stepping with
        | next strikes _ => exact (armed.trail reached).child_starts passed rested strikes present child

end Machine

open Machine

variable {σ : Type}

/-- On a way a child is made for nothing but a line that the shell has been asked for: in the background if the
line asks for that and the mode that is read honours it, in the foreground otherwise. -/
def MadeForLines (k : Kernel σ) (asked : List (Shell σ × Operation)) (way : List (Stroke × Machine)) : Prop :=
  ∀ plan number made, (Stroke.fork plan number, made) ∈ way →
    ∃ sh text background, (sh, .line text) ∈ asked ∧ sh.Plans k text background plan ∧
      plan.foreground = !background

theorem Shell.Plans.foreground_eq {k : Kernel σ} {sh : Shell σ} {text : String} {background : Bool}
    {plan : LaunchPlan} (plans : sh.Plans k text background plan) : plan.foreground = !background := by
  obtain ⟨written, -, -, planned⟩ := plans
  exact LaunchPlan.foreground_of_ofCommand planned

theorem Machine.Goes.madeForLines {k : Kernel σ} {asked : List (Shell σ × Operation)} {m m' : Machine}
    (goes : Goes (MayHaveForked k asked) m m') : ∃ way, Trail m way m' ∧ MadeForLines k asked way := by
  obtain ⟨way, went, few⟩ := goes
  refine ⟨way, went, fun plan number made member => ?_⟩
  obtain ⟨sh, operation, there, text, background, rfl, plans⟩ := few plan number made member
  exact ⟨sh, text, background, there, plans, plans.foreground_eq⟩

/-- Once the shell has armed itself, whatever it had been told about signals before, the signals of the
keyboard do what they should on every way on which things can go.  A run of the shell, whatever lines it is
given and whatever signals arrive at it and at others meanwhile, goes such a way, and a child is made on it for
nothing but a line.  So is the child of a line that never comes back, for which the shell waits in the
foreground. -/
theorem dispositions_hold {k : Kernel σ} {machine : σ → Machine} (real : k.RunsOn machine)
    {start : Machine} (unarmed : start.IsUnarmed) {first last : Shell σ}
    (armed : machine first.system = start.arm) {done : List (Shell σ × Operation)}
    (ran : Run k machine first done last) :
    (∀ way m, Trail start.arm way m → KeyboardHolds start.arm way) ∧
    (∃ way, Trail start.arm way (machine last.system) ∧ MadeForLines k done way) ∧
    ∀ text, last.executeLine k text = none →
      ∃ plan pid s, last.Plans k text false plan ∧ plan.foreground = true ∧
        k.fork plan (k.toggles last.system).2 = (.ok pid, s) ∧ waitFor k pid s = none ∧
        ∃ way, Trail start.arm way (machine s) ∧ MadeForLines k (done ++ [(last, .line text)]) way := by
  have went := ran.goes real
  rw [armed] at went
  refine ⟨fun way m went => unarmed.armed.keyboardHolds went, went.madeForLines, ?_⟩
  intro text stuck
  obtain ⟨plan, pid, s, plans, forked, never, onward⟩ := stuck_line_goes real stuck
  exact ⟨plan, pid, s, plans, plans.foreground_eq, forked, never, (went.ask onward).madeForLines⟩

/-- A shell on a machine that has just been booted, on which it has armed itself. -/
def bootedShell : Shell Machine :=
  { state := { pid := firstNumber, directory := bytesOfText scratchPath }
    system := (boot { environment := [], mask := usualMask }).arm }

/-- The machine, but that all children are stopped as soon as the shell waits for one. -/
def stoppingKernel : Kernel Machine :=
  { kernel with
    await := fun pid m => kernel.await pid
      (Script.Scene.send m ((m.children m.shellNumber).map fun p => (p.number, stopSignal))) }

theorem stoppingKernel_runsOn : stoppingKernel.RunsOn id :=
  { kernel_runsOn with
    await := fun awaited => (goes_isFrame.send _ _).trans (kernel_runsOn.await awaited) }

/-- An interrupt arrives at a shell that has been booted, and then it is given a line for the background, and
one for the foreground, whose child is stopped. -/
theorem dispositions_hold_booted :
    ∃ last, Run stoppingKernel id bootedShell [(bootedShell, .line "sleep 5 &")] last ∧
      (∃ way, Trail bootedShell.system way last.system ∧ KeyboardHolds bootedShell.system way ∧
        ∀ plan number made, (Stroke.fork plan number, made) ∈ way →
          bootedShell.Plans stoppingKernel "sleep 5 &" true plan ∧ plan.foreground = false) ∧
      ∃ plan s way, last.Plans stoppingKernel "sleep 5" false plan ∧ plan.foreground = true ∧
        Trail bootedShell.system way s ∧ KeyboardHolds bootedShell.system way := by
  have unarmed := boot_unarmed { environment := [], mask := usualMask }
  have interrupted : Goes (fun _ => False) bootedShell.system bootedShell.system :=
    .single (.signal unarmed.armed.deliver_interrupt) (by simp)
  obtain ⟨last, performed, isStuck⟩ := Option.map_eq_some_iff.1
    (show (Operation.perform stoppingKernel bootedShell (.line "sleep 5 &")).map (fun last =>
      (last.executeLine stoppingKernel "sleep 5").isNone) = some true by decide +kernel)
  have ran : Run stoppingKernel id bootedShell [(bootedShell, .line "sleep 5 &")] last :=
    .perform _ (.meanwhile bootedShell.system .start interrupted) performed
  obtain ⟨holds, ⟨way, went, made⟩, stuck⟩ := dispositions_hold stoppingKernel_runsOn unarmed rfl ran
  obtain ⟨plan, pid, s, plans, front, -, -, onward, further, -⟩ :=
    stuck "sleep 5" (Option.isNone_iff_eq_none.1 isStuck)
  refine ⟨last, ran, ⟨way, went, holds way _ went, fun plan number after member => ?_⟩,
    plan, s, onward, plans, front, further, holds onward _ further⟩
  obtain ⟨sh, text, background, asked, plans, front⟩ := made plan number after member
  obtain ⟨rfl, rfl⟩ : sh = bootedShell ∧ text = "sleep 5 &" := by simpa using asked
  have honoured : background = true := by
    obtain ⟨written, parsed, decided, -⟩ := plans
    have known : Command.parse "sleep 5 &" =
        .ok (some { argv := ["sleep", "5"], background := true }) := by decide +kernel
    obtain rfl := Option.some.inj (Except.ok.inj (known.symm.trans parsed))
    rw [decided]
    decide +kernel
  subst honoured
  exact ⟨plans, front⟩

end JobShell
