/-
Module: JobShell.Proofs.Retention
Purpose: What a change of the machine leaves alone.  A process that takes a step may become whatever it
  likes, and a signal may stop or end the process at which it arrives; all the others go on with what they
  are doing and with what they have said about signals.
Main exports: Process.Endures, Machine.Retains, deliver_retains, conclude_retains, work_retains
-/
import JobShell.Machine.System
import Mathlib.Data.List.Nodup

namespace JobShell

namespace Machine

variable {stepped signalled roving : Nat → Prop}

/-- What becomes of a process while some processes take steps, signals arrive at some and some are moved to
another directory.  Until it takes a step itself it goes on with what it is doing and with what it has said about
signals, and does not come back to life; until a signal arrives at it too it neither ends nor stops nor goes on
again; and unless it is moved it stays where it is. -/
structure Process.Endures (stepped signalled roving : Nat → Prop) (p q : Process) : Prop where
  number : q.number = p.number
  activity : ¬ stepped p.number → q.activity = p.activity
  dispositions : ¬ stepped p.number → q.dispositions = p.dispositions
  alive : ¬ stepped p.number → q.isAlive = true → p.isAlive = true
  ended : ¬ stepped p.number → ¬ signalled p.number → q.ended = p.ended
  stopped : ¬ stepped p.number → ¬ signalled p.number → q.stopped = p.stopped
  directory : ¬ stepped p.number → ¬ roving p.number → q.directory = p.directory

namespace Process.Endures

variable {p q r : Process}

theorem refl (p : Process) : p.Endures stepped signalled roving p :=
  ⟨rfl, fun _ => rfl, fun _ => rfl, fun _ => id, fun _ _ => rfl, fun _ _ => rfl, fun _ _ => rfl⟩

theorem trans (first : p.Endures stepped signalled roving q) (second : q.Endures stepped signalled roving r) :
    p.Endures stepped signalled roving r := by
  obtain ⟨number, activity, dispositions, alive, ended, stopped, directory⟩ := second
  rw [first.number] at number activity dispositions alive ended stopped directory
  exact
    { number := number
      activity := fun rests => (activity rests).trans (first.activity rests)
      dispositions := fun rests => (dispositions rests).trans (first.dispositions rests)
      alive := fun rests living => first.alive rests (alive rests living)
      ended := fun rests unheard => (ended rests unheard).trans (first.ended rests unheard)
      stopped := fun rests unheard => (stopped rests unheard).trans (first.stopped rests unheard)
      directory := fun rests still => (directory rests still).trans (first.directory rests still) }

/-- More processes take steps, signals arrive at more, and more are moved. -/
theorem weaken {stepped' signalled' roving' : Nat → Prop} (endures : p.Endures stepped signalled roving q)
    (steps : ∀ number, stepped number → stepped' number)
    (signals : ∀ number, signalled number → signalled' number)
    (moves : ∀ number, roving number → roving' number) : p.Endures stepped' signalled' roving' q where
  number := endures.number
  activity rests := endures.activity (mt (steps _) rests)
  dispositions rests := endures.dispositions (mt (steps _) rests)
  alive rests := endures.alive (mt (steps _) rests)
  ended rests unheard := endures.ended (mt (steps _) rests) (mt (signals _) unheard)
  stopped rests unheard := endures.stopped (mt (steps _) rests) (mt (signals _) unheard)
  directory rests still := endures.directory (mt (steps _) rests) (mt (moves _) still)

/-- Only what time and waiting are about has changed. -/
theorem of_same (number : q.number = p.number) (activity : q.activity = p.activity)
    (dispositions : q.dispositions = p.dispositions) (ended : q.ended = p.ended)
    (stopped : q.stopped = p.stopped) (directory : q.directory = p.directory) :
    p.Endures stepped signalled roving q :=
  ⟨number, fun _ => activity, fun _ => dispositions,
    fun _ alive => by rwa [Process.isAlive, ← ended], fun _ _ => ended, fun _ _ => stopped,
    fun _ _ => directory⟩

/-- A signal has arrived. -/
theorem of_signal (arrived : signalled p.number) (number : q.number = p.number)
    (activity : q.activity = p.activity) (dispositions : q.dispositions = p.dispositions)
    (alive : q.isAlive = true → p.isAlive = true) (directory : q.directory = p.directory) :
    p.Endures stepped signalled roving q :=
  ⟨number, fun _ => activity, fun _ => dispositions, fun _ => alive,
    fun _ unheard => (unheard arrived).elim, fun _ unheard => (unheard arrived).elim, fun _ _ => directory⟩

/-- The process has taken a step. -/
theorem of_step (took : stepped p.number) (number : q.number = p.number) :
    p.Endures stepped signalled roving q :=
  ⟨number, fun rests => (rests took).elim, fun rests => (rests took).elim,
    fun rests => (rests took).elim, fun rests => (rests took).elim, fun rests => (rests took).elim,
    fun rests => (rests took).elim⟩

end Process.Endures

/-- Every process has a number of its own, below the next one. -/
structure IsNumbered (m : Machine) : Prop where
  distinct : (m.processes.map (·.number)).Nodup
  below : ∀ p ∈ m.processes, p.number < m.nextNumber

/-- The shell is in the table, and it alone has its number. -/
structure HasShell (m : Machine) : Prop where
  numbered : m.IsNumbered
  present : ∃ p ∈ m.processes, p.number = m.shellNumber

/-- A machine comes from another while some processes take steps, signals arrive at some and some are moved: the
processes endure or have disappeared, new ones have new numbers, and the shell stays in the table. -/
structure Retains (stepped signalled roving : Nat → Prop) (before after : Machine) : Prop where
  stems : ∀ q ∈ after.processes,
    before.nextNumber ≤ q.number ∨ ∃ p ∈ before.processes, p.Endures stepped signalled roving q
  numbered : before.IsNumbered → after.IsNumbered
  onward : before.nextNumber ≤ after.nextNumber
  shell : after.shellNumber = before.shellNumber
  stays : (∃ p ∈ before.processes, p.number = before.shellNumber) →
    ∃ q ∈ after.processes, q.number = before.shellNumber
  actions : after.actions = before.actions

variable {m m' m'' : Machine}

namespace Retains

theorem refl (m : Machine) : Retains stepped signalled roving m m where
  stems q member := .inr ⟨q, member, .refl q⟩
  numbered := id
  onward := Nat.le_refl _
  shell := rfl
  stays := id
  actions := rfl

theorem trans (first : Retains stepped signalled roving m m') (second : Retains stepped signalled roving m' m'') :
    Retains stepped signalled roving m m'' where
  stems r member := by
    rcases second.stems r member with new | ⟨q, between, later⟩
    · exact .inl (Nat.le_trans first.onward new)
    · rcases first.stems q between with new | ⟨p, before, earlier⟩
      · exact .inl (later.number ▸ new)
      · exact .inr ⟨p, before, earlier.trans later⟩
  numbered before := second.numbered (first.numbered before)
  onward := Nat.le_trans first.onward second.onward
  shell := second.shell.trans first.shell
  stays present := first.shell ▸ second.stays (first.shell.symm ▸ first.stays present)
  actions := second.actions.trans first.actions

theorem weaken {stepped' signalled' roving' : Nat → Prop} (retains : Retains stepped signalled roving m m')
    (steps : ∀ number, stepped number → stepped' number)
    (signals : ∀ number, signalled number → signalled' number)
    (moves : ∀ number, roving number → roving' number) : Retains stepped' signalled' roving' m m' :=
  { retains with
    stems := fun q member =>
      (retains.stems q member).imp_right fun ⟨p, before, endures⟩ =>
        ⟨p, before, endures.weaken steps signals moves⟩ }

/-- Each process is changed by itself. -/
theorem of_map (f : Process → Process) (processes : m'.processes = m.processes.map f)
    (next : m'.nextNumber = m.nextNumber) (shell : m'.shellNumber = m.shellNumber)
    (actions : m'.actions = m.actions) (endures : ∀ p : Process, p.Endures stepped signalled roving (f p)) :
    Retains stepped signalled roving m m' where
  stems q member := by
    rw [processes] at member
    obtain ⟨p, before, rfl⟩ := List.mem_map.1 member
    exact .inr ⟨p, before, endures p⟩
  numbered := fun ⟨distinct, below⟩ => by
    have same : m'.processes.map (·.number) = m.processes.map (·.number) := by
      rw [processes, List.map_map]
      exact List.map_congr_left fun p _ => (endures p).number
    refine ⟨same ▸ distinct, fun q member => ?_⟩
    rw [processes] at member
    obtain ⟨p, before, rfl⟩ := List.mem_map.1 member
    rw [(endures p).number, next]
    exact below p before
  onward := Nat.le_of_eq next.symm
  shell := shell
  stays present := by
    obtain ⟨p, before, same⟩ := present
    rw [processes]
    exact ⟨f p, List.mem_map_of_mem before, (endures p).number.trans same⟩
  actions := actions

/-- Some processes disappear, but never the shell. -/
theorem of_filter (keeps : Process → Bool) (processes : m'.processes = m.processes.filter keeps)
    (next : m'.nextNumber = m.nextNumber) (shell : m'.shellNumber = m.shellNumber)
    (actions : m'.actions = m.actions) (kept : ∀ p, p.number = m.shellNumber → keeps p = true) :
    Retains stepped signalled roving m m' where
  stems q member := by
    rw [processes] at member
    exact .inr ⟨q, (List.mem_filter.1 member).1, .refl q⟩
  numbered := fun ⟨distinct, below⟩ => by
    have fewer : (m'.processes.map (·.number)).Sublist (m.processes.map (·.number)) := by
      rw [processes]
      exact List.filter_sublist.map _
    refine ⟨fewer.nodup distinct, fun q member => ?_⟩
    rw [processes] at member
    rw [next]
    exact below q (List.mem_filter.1 member).1
  onward := Nat.le_of_eq next.symm
  shell := shell
  stays present := by
    obtain ⟨p, before, same⟩ := present
    rw [processes]
    exact ⟨p, List.mem_filter.2 ⟨before, kept p same⟩, same⟩
  actions := actions

/-- One thing after the other is done. -/
theorem foldl {α : Type} {f : Machine → α → Machine}
    (each : ∀ m a, Retains stepped signalled roving m (f m a)) (items : List α) (m : Machine) :
    Retains stepped signalled roving m (items.foldl f m) := by
  induction items generalizing m with
  | nil => exact refl m
  | cons item rest ih => exact (each m item).trans (ih _)

end Retains

/-! ### The table -/

theorem mem_of_process? {number : Nat} {p : Process} (found : m.process? number = some p) :
    p ∈ m.processes :=
  List.mem_of_find?_eq_some found

theorem number_of_process? {number : Nat} {p : Process} (found : m.process? number = some p) :
    p.number = number := by
  simpa [process?] using List.find?_some found

theorem IsNumbered.process?_eq (numbered : m.IsNumbered) {p : Process} (member : p ∈ m.processes) :
    m.process? p.number = some p := by
  have present : (m.process? p.number).isSome = true := List.find?_isSome.2 ⟨p, member, by simp⟩
  obtain ⟨q, found⟩ := Option.isSome_iff_exists.1 present
  have same := number_of_process? found
  rw [found, List.inj_on_of_nodup_map numbered.distinct (mem_of_process? found) member same]

/-- Each process is changed by itself, and stays who it is. -/
theorem process?_map {other : Nat} (f : Process → Process) (same : ∀ p, (f p).number = p.number) :
    ({ m with processes := m.processes.map f } : Machine).process? other =
      (m.process? other).map f := by
  rw [process?, process?, List.find?_map]
  refine congrArg _ (congrArg (List.find? · m.processes) (funext fun p => ?_))
  rw [Function.comp_apply, same]

/-- Processes of other numbers are taken out of the table. -/
theorem process?_filter {other : Nat} (keeps : Process → Bool) (kept : ∀ p, p.number = other → keeps p = true) :
    ({ m with processes := m.processes.filter keeps } : Machine).process? other = m.process? other := by
  rw [process?, process?, List.find?_filter]
  refine congrArg (List.find? · m.processes) (funext fun p => ?_)
  by_cases here : p.number = other
  · simp [here, kept p here]
  · simp [here]

theorem process?_modifyProcess (m : Machine) (number other : Nat) {f : Process → Process}
    (same : ∀ p, (f p).number = p.number) :
    (m.modifyProcess number f).process? other =
      (m.process? other).map fun p => if p.number = number then f p else p := by
  rw [modifyProcess]
  apply process?_map
  intro p
  split_ifs
  · exact same p
  · rfl

/-- Changing the process of one number leaves those of others alone. -/
theorem process?_modifyProcess_other {number other : Nat} (differs : other ≠ number) {f : Process → Process}
    (same : ∀ p, p.number = number → (f p).number = number) :
    (m.modifyProcess number f).process? other = m.process? other := by
  rw [modifyProcess, process?_map]
  · cases found : m.process? other with
    | none => rfl
    | some p =>
        have here : p.number = other := number_of_process? found
        rw [Option.map_some, if_neg (here ▸ differs)]
  · intro p
    split_ifs with here
    · rw [same p here, here]
    · rfl

namespace HasShell

theorem process?_eq (has : m.HasShell) : m.process? m.shellNumber = some m.shell := by
  obtain ⟨p, member, same⟩ := has.present
  have found := has.numbered.process?_eq member
  rw [same] at found
  rw [shell, found]
  rfl

theorem mem (has : m.HasShell) : m.shell ∈ m.processes :=
  mem_of_process? has.process?_eq

theorem number (has : m.HasShell) : m.shell.number = m.shellNumber :=
  number_of_process? has.process?_eq

theorem eq_shell (has : m.HasShell) {p : Process} (member : p ∈ m.processes)
    (same : p.number = m.shellNumber) : p = m.shell := by
  have found := has.numbered.process?_eq member
  rw [same, has.process?_eq] at found
  exact (Option.some.inj found).symm

theorem shell_modifyShell (has : m.HasShell) {f : Process → Process}
    (same : ∀ p, (f p).number = p.number) : (m.modifyShell f).shell = f m.shell := by
  have found := process?_modifyProcess m m.shellNumber m.shellNumber same
  rw [has.process?_eq, Option.map_some, if_pos has.number] at found
  exact congrArg (·.getD default) found

/-- The shell stays in the table, and endures like everybody else. -/
theorem endures (has : m.HasShell) (retains : Retains stepped signalled roving m m') :
    m'.HasShell ∧ m.shell.Endures stepped signalled roving m'.shell := by
  have later : m'.HasShell :=
    ⟨retains.numbered has.numbered, retains.shell ▸ retains.stays has.present⟩
  refine ⟨later, ?_⟩
  have number : m'.shell.number = m.shellNumber := later.number.trans retains.shell
  rcases retains.stems m'.shell later.mem with new | ⟨p, before, endures⟩
  · have below := has.numbered.below m.shell has.mem
    rw [has.number] at below
    omega
  · rwa [has.eq_shell before (endures.number.symm.trans number)] at endures

end HasShell

/-! ### Changes of the table -/

theorem modifyProcess_retains (m : Machine) (number : Nat) {f : Process → Process}
    (endures : ∀ p : Process, p.number = number → p.Endures stepped signalled roving (f p)) :
    Retains stepped signalled roving m (m.modifyProcess number f) := by
  refine .of_map (fun p => if p.number = number then f p else p) rfl rfl rfl rfl fun p => ?_
  split
  · next here => exact endures p here
  · exact .refl p

theorem remove_retains {number : Nat} (other : number ≠ m.shellNumber) :
    Retains stepped signalled roving m (m.remove number) := by
  refine .of_filter (fun p => p.number != number) rfl rfl rfl rfl fun p same => ?_
  simpa [same] using other.symm

theorem spawn_retains (m : Machine) (p : Process) : Retains stepped signalled roving m (m.spawn p).2 where
  stems q member := by
    rcases List.mem_append.1 member with before | new
    · exact .inr ⟨q, before, .refl q⟩
    · rw [List.mem_singleton.1 new]
      exact .inl (Nat.le_refl _)
  numbered := fun ⟨distinct, below⟩ => by
    refine ⟨?_, fun q member => ?_⟩
    · have other : ∀ q ∈ m.processes, q.number ≠ m.nextNumber :=
        fun q before => Nat.ne_of_lt (below q before)
      simpa [spawn, List.nodup_append, distinct] using other
    · rcases List.mem_append.1 member with before | new
      · exact Nat.lt_succ_of_lt (below q before)
      · rw [List.mem_singleton.1 new]
        exact Nat.lt_succ_self _
  onward := Nat.le_succ _
  shell := rfl
  stays := fun ⟨p, before, same⟩ => ⟨p, List.mem_append_left _ before, same⟩
  actions := rfl

/-- A process that has taken a step is put back under its number. -/
theorem store_retains {number : Nat} (took : stepped number) (m : Machine) (t : Task) :
    Retains stepped signalled roving m (m.store number t) := by
  refine .of_map (fun p => if p.number = number then { t.process with number := number } else p)
    rfl rfl rfl rfl fun p => ?_
  split
  · next here => exact .of_step (here ▸ took) here.symm
  · exact .refl p

/-! ### Signals and endings -/

theorem queue_retains (m : Machine) (number signal : Nat) :
    Retains stepped signalled roving m (m.queue number signal) :=
  modifyProcess_retains m number fun _ _ => .of_same rfl rfl rfl rfl rfl rfl

theorem tellParent_retains (m : Machine) (number : Nat) :
    Retains stepped signalled roving m (m.tellParent number) := by
  rw [tellParent]
  split
  · split
    · exact queue_retains m _ _
    · exact .refl m
  · exact .refl m

/-- A process that ends leaves its children to nobody and disappears, unless it is the shell; nothing else
happens to the others. -/
theorem finish_retains {number : Nat} (touched : stepped number ∨ signalled number) (m : Machine)
    (word : Int) : Retains stepped signalled roving m (m.finish number word) := by
  have told : Retains stepped signalled roving m (m.tellParent number) := tellParent_retains m number
  let ended := (m.tellParent number).modifyProcess number fun p => { p with ended := some word }
  have ending : Retains stepped signalled roving m ended := by
    refine told.trans (modifyProcess_retains _ number fun p here => ?_)
    rcases touched with took | arrived
    · exact .of_step (here ▸ took) rfl
    · exact .of_signal (here ▸ arrived) rfl rfl rfl (fun alive => by simp [Process.isAlive] at alive) rfl
  let adopted (p : Process) : Process := if p.parent = number then { p with parent := 1 } else p
  let orphaned := { ended with processes := ended.processes.map adopted }
  have orphaning : Retains stepped signalled roving ended orphaned := by
    refine .of_map adopted rfl rfl rfl rfl fun p => ?_
    simp only [adopted]
    split
    · exact .of_same rfl rfl rfl rfl rfl rfl
    · exact .refl p
  refine (ending.trans orphaning).trans (.of_filter _ rfl rfl rfl rfl fun p same => ?_)
  have shell : orphaned.shellNumber = m.shellNumber := (ending.trans orphaning).shell
  simp [same, shell]

section

variable {p : Process}

theorem deliverDefault_retains (arrived : signalled p.number) (m : Machine) (signal : Nat) :
    Retains stepped signalled roving m (m.deliverDefault p signal) := by
  rw [deliverDefault]
  split
  · exact .refl m
  · exact modifyProcess_retains m _ fun _ here => .of_signal (here ▸ arrived) rfl rfl rfl id rfl
  · exact finish_retains (.inr arrived) m _

theorem deliverHandled_retains (m : Machine) (p : Process) (signal : Nat) :
    Retains stepped signalled roving m (m.deliverHandled p signal) := by
  rw [deliverHandled]
  split
  · exact .of_map id (by simp) rfl rfl rfl fun p => .refl p
  · exact queue_retains m _ _

theorem act_retains (arrived : signalled p.number) (m : Machine) (signal : Nat) :
    Retains stepped signalled roving m (m.act p signal) := by
  rw [act]
  split
  · exact .refl m
  · exact deliverHandled_retains m p signal
  · exact deliverDefault_retains arrived m signal

theorem hold_retains (arrived : signalled p.number) (m : Machine) (signal : Nat) :
    Retains stepped signalled roving m (m.hold p signal) := by
  rw [hold]
  split
  · exact .refl m
  · exact modifyProcess_retains m _ fun _ here => .of_signal (here ▸ arrived) rfl rfl rfl id rfl

theorem resume_retains (arrived : signalled p.number) (m : Machine) :
    Retains stepped signalled roving m (m.resume p) := by
  have awake : Retains stepped signalled roving m
      (m.modifyProcess p.number fun q => { q with stopped := false, held := [] }) :=
    modifyProcess_retains m _ fun _ here => .of_signal (here ▸ arrived) rfl rfl rfl id rfl
  refine awake.trans (.foldl (fun m signal => ?_) _ _)
  split
  · next q found =>
    have same : q.number = p.number := number_of_process? found
    split
    · exact act_retains (same ▸ arrived) m signal
    · exact .refl m
  · exact .refl m

end

/-- A signal can stop or end the process at which it arrives, and does nothing else to anybody. -/
theorem deliver_retains {number signal : Nat} (arrived : signalled number)
    (delivered : m.deliver number signal = .ok m') : Retains stepped signalled roving m m' := by
  rw [deliver] at delivered
  split at delivered
  · cases delivered
  · next p found =>
    have same : p.number = number := number_of_process? found
    rw [← same] at arrived
    split_ifs at delivered
    all_goals obtain rfl := Except.ok.inj delivered
    · exact .refl m
    · exact deliverDefault_retains arrived m signal
    · exact (resume_retains arrived m).trans (act_retains arrived _ signal)
    · exact hold_retains arrived m signal
    · exact act_retains arrived m signal

/-! ### Steps -/

theorem conclude_retains {number : Nat} (took : stepped number) (m : Machine) (t : Task) :
    Retains stepped signalled roving m (m.conclude number t) := by
  rw [conclude]
  split
  · exact modifyProcess_retains m number fun _ here => .of_step (here ▸ took) rfl
  · split
    · exact (store_retains took m _).trans (finish_retains (.inl took) _ _)
    · exact store_retains took m _

theorem meet_retains (m : Machine) (demand : Script.Demand) :
    Retains stepped signalled roving m (demand.meet m) := by
  cases demand with
  | make p => exact spawn_retains m p
  | collect number =>
      rw [Script.Demand.meet]
      split
      · exact .refl m
      · next other => exact remove_retains other

/-- The scene at which a script arrives in a step. -/
def sceneAfter (m : Machine) (p : Process) (s : Script.ScriptState) (stack : List Script.Frame) :
    Script.Scene :=
  Script.Scene.step { around := m, task := m.taskOf p, state := s, stack := stack }

/-- What a process does in a step by itself, before the signals that it sends arrive. -/
def work (m : Machine) (p : Process) : Machine :=
  match p.activity with
  | .script s stack => ({ m.sceneAfter p s stack with signals := [] } : Script.Scene).settle m p.number
  | _ => m.stepProcess p

/-- The signals that a process sends in a step, with the processes at which they arrive. -/
def signalsOf (m : Machine) (p : Process) : List (Nat × Nat) :=
  match p.activity with
  | .script s stack => (m.sceneAfter p s stack).signals
  | _ => []

/-- A step of a process is its work and then the arrival of its signals. -/
theorem stepProcess_eq (m : Machine) (p : Process) :
    m.stepProcess p = Script.Scene.send (m.work p) (m.signalsOf p) := by
  rw [work, signalsOf]
  split
  · next activity => rw [stepProcess, activity]; rfl
  · rfl

/-- Whatever a process does by itself, it makes and collects children, and changes nobody else. -/
theorem work_retains {p : Process} (took : stepped p.number) (m : Machine) :
    Retains stepped signalled roving m (m.work p) := by
  rw [work]
  split
  · exact (Retains.foldl (fun m demand => meet_retains m demand) _ m).trans
      (conclude_retains took _ _)
  · next noScript =>
    rw [stepProcess]
    split
    · exact .refl m
    · exact conclude_retains took m _
    · exact conclude_retains took m _
    · exact conclude_retains took m _
    · exact conclude_retains took m _
    · next s stack activity => exact (noScript s stack activity).elim

/-! ### Time -/

theorem charge_retains (m : Machine) (number first : Nat) :
    Retains stepped signalled roving m (m.charge number first) := by
  rw [charge]
  split
  · exact .refl m
  · refine .of_map _ rfl rfl rfl rfl fun p => ?_
    split_ifs <;> exact .of_same rfl rfl rfl rfl rfl rfl

/-- At the end of a round some processes are left to wait. -/
theorem rouse_retains (m before : Machine) (now : Nat) :
    Retains stepped signalled roving m
      { m with processes := m.processes.map (rouse before m), now := now } := by
  refine .of_map _ rfl rfl rfl rfl fun p => ?_
  rw [rouse]
  split
  · exact .of_same rfl rfl rfl rfl rfl rfl
  · exact .refl p

/-! ### Calls of the shell -/

/-- The shell may be moved, and nothing else becomes of it. -/
theorem changeDirectory_retains (m : Machine) (path : Text.Bytes) (moves : roving m.shellNumber) :
    Retains stepped signalled roving m (m.changeDirectory path).2 := by
  rw [changeDirectory]
  split
  · exact .refl m
  · split_ifs
    · exact .refl m
    · exact .refl m
    · refine modifyProcess_retains m _ fun p here => ?_
      exact ⟨rfl, fun _ => rfl, fun _ => rfl, fun _ => id, fun _ _ => rfl, fun _ _ => rfl,
        fun _ still => (still (here ▸ moves)).elim⟩

/-- The shell is put back as it was, after it has done something on the disk. -/
theorem store_shell_retains {t : Task} (same : t.process = m.shell) :
    Retains stepped signalled roving m (m.store m.shellNumber t) where
  stems q member := by
    obtain ⟨p, before, rfl⟩ := List.mem_map.1 member
    right
    split
    · next here =>
      have present : (m.process? m.shellNumber).isSome = true :=
        List.find?_isSome.2 ⟨p, before, by simpa using here⟩
      obtain ⟨shell, found⟩ := Option.isSome_iff_exists.1 present
      have number : shell.number = m.shellNumber := number_of_process? found
      have itself : t.process = shell := by simp [same, Machine.shell, found]
      rw [itself]
      exact ⟨shell, mem_of_process? found, .of_same number.symm rfl rfl rfl rfl rfl⟩
    · exact ⟨p, before, .refl p⟩
  numbered := fun ⟨distinct, below⟩ => by
    have same : (m.store m.shellNumber t).processes.map (·.number) = m.processes.map (·.number) := by
      rw [store, modifyProcess, List.map_map]
      refine List.map_congr_left fun p _ => ?_
      dsimp only [Function.comp]
      split
      · next here => exact here.symm
      · rfl
    refine ⟨same ▸ distinct, fun q member => ?_⟩
    obtain ⟨p, before, here⟩ := List.mem_map.1 (same ▸ List.mem_map_of_mem member)
    exact here ▸ below p before
  onward := Nat.le_refl _
  shell := rfl
  stays := fun ⟨p, before, here⟩ =>
    ⟨_, List.mem_map_of_mem before, by simp [here]⟩
  actions := rfl

theorem write_retains (m : Machine) (stream : Stream) (text : String) :
    Retains stepped signalled roving m (m.write stream text) := by
  refine store_shell_retains ?_
  rw [Task.put, Task.write]
  split
  · rfl
  · split_ifs <;> rfl

theorem read_retains {limit : Nat} {answer : Except Errno Text.Bytes}
    (done : m.read limit = some (answer, m')) : Retains stepped signalled roving m m' := by
  rcases reading : m.shellTask.readSome 0 limit with ⟨result, t⟩
  simp only [read, reading, Option.some.injEq, Prod.mk.injEq] at done
  obtain ⟨-, rfl⟩ := done
  refine store_shell_retains ?_
  rw [Task.readSome] at reading
  split at reading <;> obtain ⟨-, rfl⟩ := Prod.mk.inj reading <;> rfl

end Machine

end JobShell
