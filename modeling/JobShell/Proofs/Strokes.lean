/-
Module: JobShell.Proofs.Strokes
Purpose: The machine stroke by stroke: a signal arrives, a process takes a step, time passes, or the shell
  makes a call.  Everything that the machine does for the shell unfolds into strokes, so that what each
  stroke retains is retained over whole runs, whatever comes in between.
Main exports: Stroke, Strikes, Hosts, Trail, Trail.retains, Goes, IsFrame, Kernel.RunsOn, Machine.kernel_runsOn
-/
import JobShell.Proofs.Retention

namespace JobShell

namespace Machine

/-- What happens on the machine at one stroke. -/
inductive Stroke where
  /-- A signal arrives at a process. -/
  | signal (number signal : Nat)
  /-- A process takes a step. -/
  | step (number : Nat)
  /-- Time passes, and some processes have to wait. -/
  | elapse
  /-- The shell makes a child by a plan; the child gets a number. -/
  | fork (plan : LaunchPlan) (number : Nat)
  /-- The shell makes any other call. -/
  | call

/-- How a stroke changes the machine. -/
inductive Strikes : Machine → Stroke → Machine → Prop where
  | signal {m m' : Machine} {number signal : Nat} (delivered : m.deliver number signal = .ok m') :
      Strikes m (.signal number signal) m'
  | step {m : Machine} {p : Process} {number : Nat} (found : m.process? number = some p)
      (ready : m.isReady p = true) : Strikes m (.step number) (m.work p)
  | charge (m : Machine) (number first : Nat) : Strikes m .elapse (m.charge number first)
  | rouse (m before : Machine) (now : Nat) :
      Strikes m .elapse { m with processes := m.processes.map (rouse before m), now := now }
  | fork (m : Machine) (plan : LaunchPlan) : Strikes m (.fork plan m.nextNumber) (m.fork plan).2
  | collect {m : Machine} {wanted : Process → Bool} {p : Process}
      (ended : m.endedChild? m.shellNumber wanted = some p) : Strikes m .call (m.remove p.number)
  | move (m : Machine) (path : Text.Bytes) : Strikes m .call (m.changeDirectory path).2
  | write (m : Machine) (stream : Stream) (text : String) : Strikes m .call (m.write stream text)
  | read {m m' : Machine} {limit : Nat} {answer : Except Errno Text.Bytes}
      (done : m.read limit = some (answer, m')) : Strikes m .call m'

/-- What happens from a machine on until it has become another: the strokes, each with the machine that it
leaves. -/
inductive Trail : Machine → List (Stroke × Machine) → Machine → Prop where
  | here (m : Machine) : Trail m [] m
  | next {m m' m'' : Machine} {stroke : Stroke} {later : List (Stroke × Machine)}
      (strikes : Strikes m stroke m') (on : Trail m' later m'') : Trail m ((stroke, m') :: later) m''

/-- Whether a process takes a step on the way. -/
def Steps (trail : List (Stroke × Machine)) (number : Nat) : Prop :=
  ∃ after, (Stroke.step number, after) ∈ trail

/-- Whether a signal arrives at a process on the way. -/
def Hears (trail : List (Stroke × Machine)) (number : Nat) : Prop :=
  ∃ signal after, (Stroke.signal number signal, after) ∈ trail

variable {m m' m'' : Machine} {earlier later trail : List (Stroke × Machine)}

/-! ### What strokes retain -/

theorem endedChild?_ne_shell {wanted : Process → Bool} {p : Process}
    (ended : m.endedChild? m.shellNumber wanted = some p) : p.number ≠ m.shellNumber := by
  have member := List.mem_of_find?_eq_some ended
  simp only [children, List.mem_filter, Bool.and_eq_true, bne_iff_ne] at member
  exact member.2.2

/-- A stroke retains everybody, but for the process that takes a step, the one at which a signal arrives, and
the shell where it makes a call, which may move it. -/
theorem Strikes.retains {stroke : Stroke} {stepped signalled roving : Nat → Prop}
    (strikes : Strikes m stroke m') (steps : ∀ number, stroke = .step number → stepped number)
    (signals : ∀ number signal, stroke = .signal number signal → signalled number)
    (moves : stroke = .call → roving m.shellNumber) : Retains stepped signalled roving m m' := by
  cases strikes with
  | signal delivered => exact deliver_retains (signals _ _ rfl) delivered
  | step found ready => exact work_retains (number_of_process? found ▸ steps _ rfl) m
  | charge number first => exact charge_retains m number first
  | rouse before now => exact rouse_retains m before now
  | fork plan => exact spawn_retains m _
  | collect ended => exact remove_retains (endedChild?_ne_shell ended)
  | move path => exact changeDirectory_retains m path (moves rfl)
  | write stream text => exact write_retains m stream text
  | read done => exact read_retains done

/-- The shell is in the table, and it runs from outside. -/
structure Hosts (m : Machine) : Prop extends m.HasShell where
  activity : m.shell.activity = .shell

namespace Hosts

/-- The shell takes no steps of its own. -/
theorem ne_of_step (hosts : m.Hosts) {number : Nat} (strikes : Strikes m (.step number) m') :
    number ≠ m.shellNumber := by
  rintro rfl
  cases strikes with
  | step found ready =>
      obtain rfl := Option.some.inj (hosts.process?_eq.symm.trans found)
      simp [isReady, hosts.activity] at ready

/-- What a stroke does to the shell is at most what a signal can do that arrives at it, or what a call can do. -/
theorem endures {stroke : Stroke} (hosts : m.Hosts) (strikes : Strikes m stroke m') :
    m'.HasShell ∧
      m.shell.Endures (fun _ => False) (fun number => ∃ signal, stroke = .signal number signal)
        (fun _ => stroke = .call) m'.shell := by
  have retains : Retains (fun number => stroke = .step number)
      (fun number => ∃ signal, stroke = .signal number signal) (fun _ => stroke = .call) m m' :=
    strikes.retains (fun _ same => same) (fun _ signal same => ⟨signal, same⟩) id
  obtain ⟨has, endures⟩ := hosts.toHasShell.endures retains
  have rests : stroke ≠ .step m.shell.number := by
    rintro rfl
    exact hosts.ne_of_step strikes hosts.number
  exact ⟨has, endures.number, fun _ => endures.activity rests, fun _ => endures.dispositions rests,
    fun _ => endures.alive rests, fun _ => endures.ended rests, fun _ => endures.stopped rests,
    fun _ => endures.directory rests⟩

/-- Every stroke leaves the shell in the table, and outside. -/
theorem strikes {stroke : Stroke} (hosts : m.Hosts) (strikes : Strikes m stroke m') : m'.Hosts := by
  obtain ⟨has, endures⟩ := hosts.endures strikes
  exact ⟨has, (endures.activity id).trans hosts.activity⟩

end Hosts

namespace Trail

/-- What happens on the way from one machine to another retains everybody who takes no step and at whom no
signal arrives, wherever the shell may be moved. -/
theorem retains (went : Trail m trail m') : Retains (Steps trail) (Hears trail) (fun _ => True) m m' := by
  induction went with
  | here m => exact .refl m
  | next strikes on ih =>
      refine (strikes.retains (fun number same => ?_) (fun number signal same => ?_) fun _ => trivial).trans
        (ih.weaken (fun number => ?_) (fun number => ?_) fun _ => id)
      · exact ⟨_, by rw [same]; exact List.mem_cons_self⟩
      · exact ⟨signal, _, by rw [same]; exact List.mem_cons_self⟩
      · exact fun ⟨after, member⟩ => ⟨after, List.mem_cons_of_mem _ member⟩
      · exact fun ⟨signal, after, member⟩ => ⟨signal, after, List.mem_cons_of_mem _ member⟩

theorem trans (first : Trail m earlier m') (second : Trail m' later m'') :
    Trail m (earlier ++ later) m'' := by
  induction first with
  | here => exact second
  | next strikes _ ih => exact .next strikes (ih second)

theorem split (went : Trail m (earlier ++ later) m'') :
    ∃ m', Trail m earlier m' ∧ Trail m' later m'' := by
  induction earlier generalizing m with
  | nil => exact ⟨m, .here m, went⟩
  | cons first rest ih =>
      cases went with
      | next strikes on =>
          obtain ⟨m', before, after⟩ := ih on
          exact ⟨m', .next strikes before, after⟩

/-- The strokes and what they leave tell where a way leads. -/
theorem unique (first : Trail m trail m') (second : Trail m trail m'') : m' = m'' := by
  induction first with
  | here => cases second; rfl
  | next _ _ ih =>
      cases second with
      | next _ on => exact ih on

theorem single {stroke : Stroke} (strikes : Strikes m stroke m') : Trail m [(stroke, m')] m' :=
  .next strikes (.here m')

end Trail

/-! ### Ways -/

/-- One machine becomes another, and meanwhile the shell forks by certain plans only. -/
def Goes (allowed : LaunchPlan → Prop) (before after : Machine) : Prop :=
  ∃ trail, Trail before trail after ∧
    ∀ plan number made, (Stroke.fork plan number, made) ∈ trail → allowed plan

namespace Goes

variable {allowed : LaunchPlan → Prop}

theorem refl (m : Machine) : Goes allowed m m :=
  ⟨[], .here m, by simp⟩

theorem trans (first : Goes allowed m m') (second : Goes allowed m' m'') : Goes allowed m m'' := by
  obtain ⟨earlier, before, early⟩ := first
  obtain ⟨later, after, late⟩ := second
  refine ⟨earlier ++ later, before.trans after, fun plan number made member => ?_⟩
  rcases List.mem_append.1 member with there | here
  · exact early plan number made there
  · exact late plan number made here

theorem weaken {more : LaunchPlan → Prop} (goes : Goes allowed m m')
    (all : ∀ plan, allowed plan → more plan) : Goes more m m' := by
  obtain ⟨trail, went, few⟩ := goes
  exact ⟨trail, went, fun plan number made member => all plan (few plan number made member)⟩

/-- A stroke that is not a fork. -/
theorem single {stroke : Stroke} (strikes : Strikes m stroke m')
    (other : ∀ plan number, stroke ≠ .fork plan number) : Goes allowed m m' := by
  refine ⟨[(stroke, m')], .single strikes, fun plan number made member => ?_⟩
  obtain ⟨same, -⟩ := Prod.mk.inj (List.mem_singleton.1 member)
  exact (other plan number same.symm).elim

/-- A fork by a plan that is allowed. -/
theorem fork {plan : LaunchPlan} (may : allowed plan) (m : Machine) :
    Goes allowed m (m.fork plan).2 := by
  refine ⟨[(.fork plan m.nextNumber, (m.fork plan).2)], .single (.fork m plan),
    fun other number made member => ?_⟩
  obtain ⟨same, -⟩ := Prod.mk.inj (List.mem_singleton.1 member)
  obtain ⟨rfl, -⟩ := Stroke.fork.inj same
  exact may

end Goes

/-! ### What the machine does by itself -/

/-- A relation holds where nothing happens, is passed on, and holds over every stroke that is not the shell's and
over the collecting of a child. -/
structure IsFrame (R : Machine → Machine → Prop) : Prop where
  refl (m : Machine) : R m m
  trans {m m' m'' : Machine} : R m m' → R m' m'' → R m m''
  others {m m' : Machine} {stroke : Stroke} (strikes : Strikes m stroke m')
    (noFork : ∀ plan number, stroke ≠ .fork plan number) (noCall : stroke ≠ .call) : R m m'
  collect {m : Machine} {wanted : Process → Bool} {p : Process}
    (ended : m.endedChild? m.shellNumber wanted = some p) : R m (m.remove p.number)

theorem goes_isFrame {allowed : LaunchPlan → Prop} : IsFrame (Goes allowed) where
  refl m := .refl m
  trans first second := first.trans second
  others strikes noFork _ := .single strikes noFork
  collect ended := .single (.collect ended) (by simp)

/-- Time may pass without anybody being roused. -/
theorem rouse_self (m : Machine) (p : Process) : rouse m m p = p := by
  rw [rouse]
  cases m.isStalled p <;> simp

namespace IsFrame

variable {R : Machine → Machine → Prop}

theorem send (frame : IsFrame R) (m : Machine) (signals : List (Nat × Nat)) :
    R m (Script.Scene.send m signals) := by
  induction signals generalizing m with
  | nil => exact frame.refl m
  | cons signal rest ih =>
      refine frame.trans ?_ (ih _)
      dsimp only
      split
      · next delivered => exact frame.others (.signal delivered) (by simp) (by simp)
      · exact frame.refl m

/-- A step is the work of the process, then the arrival of its signals, then a wait. -/
theorem step (frame : IsFrame R) (m : Machine) (number : Nat) : R m (m.step number) := by
  rw [Machine.step]
  split
  · exact frame.refl m
  · next p found =>
    split
    · next ready =>
      have work : R m (m.work p) := frame.others (.step found ready) (by simp) (by simp)
      have sent : R (m.work p) (m.stepProcess p) := by
        rw [stepProcess_eq]
        exact frame.send _ _
      apply frame.trans (frame.trans work sent)
      exact frame.others (.charge _ _ _) (by simp) (by simp)
    · exact frame.refl m

theorem round (frame : IsFrame R) (m : Machine) (numbers : List Nat) : R m (m.round numbers) := by
  have stepping : R m (numbers.foldl Machine.step m) := by
    generalize m = current
    induction numbers generalizing current with
    | nil => exact frame.refl current
    | cons number rest ih => exact frame.trans (frame.step current number) (ih _)
  exact frame.trans stepping (frame.others (.rouse _ m _) (by simp) (by simp))

theorem elapse (frame : IsFrame R) (m : Machine) (now : Nat) : R m { m with now := now } := by
  have same : m.processes.map (rouse m m) = m.processes := by
    simp [funext (rouse_self m)]
  have elapsed : Strikes m .elapse { m with processes := m.processes.map (rouse m m), now := now } :=
    .rouse m m now
  rw [same] at elapsed
  exact frame.others elapsed (by simp) (by simp)

theorem advance (frame : IsFrame R) (went : m.advance = some m') : R m m' := by
  rw [Machine.advance] at went
  split at went
  · obtain ⟨wake, -, rfl⟩ := Option.map_eq_some_iff.1 went
    exact frame.elapse m _
  · obtain rfl := Option.some.inj went
    exact frame.round m _

theorem runWithin (frame : IsFrame R) {stop : Machine → Bool} {fuel : Nat}
    (went : Machine.runWithin stop fuel m = some m') : R m m' := by
  induction fuel generalizing m with
  | zero =>
      rw [Machine.runWithin] at went
      split at went
      · exact Option.some.inj went ▸ frame.refl m
      · cases went
  | succ fuel ih =>
      rw [Machine.runWithin] at went
      split at went
      · exact Option.some.inj went ▸ frame.refl m
      · split at went
        · cases went
        · next advanced => exact frame.trans (frame.advance advanced) (ih went)

theorem passUntil (frame : IsFrame R) (deadline fuel : Nat) (m : Machine) :
    R m (m.passUntil deadline fuel) := by
  induction fuel generalizing m with
  | zero => exact frame.elapse m _
  | succ fuel ih =>
      rw [Machine.passUntil]
      split
      · exact frame.refl m
      · split
        · split
          · exact frame.elapse m _
          · split
            · exact frame.elapse m _
            · exact frame.trans (frame.elapse m _) (ih _)
        · exact frame.trans (frame.round m _) (ih _)

theorem poll (frame : IsFrame R) (m : Machine) (target : WaitTarget) : R m (m.poll target).2 := by
  rw [Machine.poll]
  split
  · next ended => exact frame.collect ended
  · split <;> exact frame.refl m

theorem await (frame : IsFrame R) {pid : Pid} {answer : WaitAnswer} (awaited : m.await pid = some (answer, m')) :
    R m m' := by
  obtain ⟨settled, went, polled⟩ := Option.map_eq_some_iff.1 awaited
  have collected : R settled (settled.poll (.only pid)).2 := frame.poll settled _
  rw [polled] at collected
  exact frame.trans (frame.runWithin went) collected

theorem kill (frame : IsFrame R) (m : Machine) (pid : Pid) (signal : StopSignal) :
    R m (m.kill pid signal).2 := by
  rw [Machine.kill]
  split
  · next delivered => exact frame.others (.signal delivered) (by simp) (by simp)
  · exact frame.refl m

/-! A call that only a living shell can make changes nothing once the shell is gone. -/

theorem answered (frame : IsFrame R) {α : Type} {otherwise : α} {call : Machine → α × Machine} {m : Machine}
    (called : R m (call m).2) : R m (Machine.answered otherwise call m).2 := by
  rw [Machine.answered]
  split
  · exact frame.refl m
  · exact called

theorem whileAlive (frame : IsFrame R) {change : Machine → Machine} {m : Machine} (changed : R m (change m)) :
    R m (Machine.whileAlive change m) := by
  rw [Machine.whileAlive]
  split
  · exact frame.refl m
  · exact changed

theorem kernel_await (frame : IsFrame R) {pid : Pid} {answer : WaitAnswer}
    (awaited : kernel.await pid m = some (answer, m')) : R m m' := by
  simp only [kernel] at awaited
  split at awaited
  · obtain ⟨-, rfl⟩ := Prod.mk.inj (Option.some.inj awaited)
    exact frame.refl m
  · exact frame.await awaited

theorem kernel_note (frame : IsFrame R) (write : ∀ m stream text, R m (Machine.write stream text m))
    (n : Diagnostics.Note) (m : Machine) : R m (kernel.note n m) := by
  refine frame.whileAlive ?_
  rw [Machine.note]
  split
  · exact write m .err n.render
  · exact frame.refl m

end IsFrame

end Machine

/-! ### Systems that are machines -/

open Machine in
/-- Whatever the shell asks for is done on a machine.  Before, during and after each call anything may happen
there besides, as long as it happens by strokes; but only a fork makes a child for the shell, by the plan that
it is given. -/
structure Kernel.RunsOn {σ : Type} (k : Kernel σ) (machine : σ → Machine) : Prop where
  fork : ∀ plan s, Goes (· = plan) (machine s) (machine (k.fork plan s).2)
  await : ∀ {pid s answer s'}, k.await pid s = some (answer, s') →
    Goes (fun _ => False) (machine s) (machine s')
  poll : ∀ target s, Goes (fun _ => False) (machine s) (machine (k.poll target s).2)
  kill : ∀ pid signal s, Goes (fun _ => False) (machine s) (machine (k.kill pid signal s).2)
  sleep : ∀ milliseconds s, Goes (fun _ => False) (machine s) (machine (k.sleep milliseconds s))
  toggles : ∀ s, Goes (fun _ => False) (machine s) (machine (k.toggles s).2)
  changeDirectory : ∀ path s, Goes (fun _ => False) (machine s) (machine (k.changeDirectory path s).2)
  read : ∀ {limit s answer s'}, k.read limit s = some (answer, s') →
    Goes (fun _ => False) (machine s) (machine s')
  write : ∀ stream text s, Goes (fun _ => False) (machine s) (machine (k.write stream text s))
  note : ∀ n s, Goes (fun _ => False) (machine s) (machine (k.note n s))

namespace Machine

/-- The machine itself is one such system. -/
theorem kernel_runsOn : kernel.RunsOn id where
  fork plan m := goes_isFrame.answered (.fork (by rfl) m)
  await awaited := goes_isFrame.kernel_await awaited
  poll target m := goes_isFrame.answered (goes_isFrame.poll m target)
  kill pid signal m := goes_isFrame.answered (goes_isFrame.kill m pid signal)
  sleep milliseconds m := goes_isFrame.whileAlive (goes_isFrame.passUntil _ _ m)
  toggles m := .refl m
  changeDirectory path m := goes_isFrame.answered (.single (.move m path) (by simp))
  read {limit m answer m'} done := by
    simp only [kernel] at done
    split at done
    · obtain ⟨-, rfl⟩ := Prod.mk.inj (Option.some.inj done)
      exact .refl m
    · exact .single (.read done) (by simp)
  write stream text m := goes_isFrame.whileAlive (.single (.write m stream text) (by simp))
  note n m := goes_isFrame.kernel_note (fun m stream text => .single (.write m stream text) (by simp)) n m

end Machine

end JobShell
