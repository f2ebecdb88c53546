/-
Module: JobShell.Proofs.Blocking
Purpose: Where the shell can be held up.  It waits for a child only right behind making that child for the
  foreground, or right behind sending it the signal that kills, which it does after the grace period only;
  and an operation that never comes to an end is held up in such a wait.
Main exports: Kernel.KeepsTime, pollUntil_deadline, MayBlock, Attends, perform_blocks, perform_stuck,
  blocks_only_where_it_may
-/
import JobShell.Proofs.Course
import JobShell.Proofs.LineForms
import JobShell.Proofs.Lives

namespace JobShell

variable {σ : Type} {k : Kernel σ} {history : σ → History}

/-! ### Time -/

/-- How time goes: it does not go back while the shell asks after children, and a sleep lasts as long as it
was to last, or longer. -/
structure Kernel.KeepsTime (k : Kernel σ) : Prop where
  poll (target : WaitTarget) (s : σ) : k.clock s ≤ k.clock (k.poll target s).2
  sleep (milliseconds : Nat) (s : σ) : k.clock s + milliseconds * 1000 ≤ k.clock (k.sleep milliseconds s)

theorem pollEach_clock (keeps : k.KeepsTime) (pids : List Pid) (s : σ) :
    k.clock s ≤ k.clock (pollEach k pids s).2.2 := by
  induction pids generalizing s with
  | nil => exact Nat.le_refl _
  | cons pid rest ih =>
      have first := keeps.poll (.only pid) s
      have later := ih (k.poll (.only pid) s).2
      simp only [pollEach, pollFor_eq]
      generalize pollEach k rest (k.poll (.only pid) s).2 = others at later
      obtain ⟨ended, pending, t⟩ := others
      rcases (k.poll (.only pid) s).1.reading with _ | _ | _ <;> exact Nat.le_trans first later

/-- Rounds that last up to the deadline, each for some period at least, leave nobody or end after it. -/
theorem pollUntil_deadline (keeps : k.KeepsTime) {period deadline rounds : Nat} {pids left : List Pid}
    {ended : List Collected} {s s' : σ}
    (lasts : ∀ s, k.clock s + period ≤ k.clock (k.sleep pollInterval s))
    (long : deadline ≤ k.clock s + rounds * period)
    (asked : pollUntil k deadline (rounds + 1) pids s = (ended, left, s')) :
    left = [] ∨ deadline ≤ k.clock s' := by
  induction rounds generalizing pids ended s with
  | zero =>
      have passed := pollEach_clock keeps pids s
      rcases each : pollEach k pids s with ⟨first, pending, t⟩
      have later : k.clock s ≤ k.clock t := by simpa only [each] using passed
      have due : deadline ≤ k.clock t := by
        rw [Nat.zero_mul, Nat.add_zero] at long
        exact Nat.le_trans long later
      obtain ⟨-, rfl, rfl⟩ := by
        simpa only [pollUntil, each, due, decide_true, Bool.or_true, if_true, Prod.mk.injEq] using asked
      exact .inr due
  | succ rounds ih =>
      have passed := pollEach_clock keeps pids s
      rcases each : pollEach k pids s with ⟨first, pending, t⟩
      have later : k.clock s ≤ k.clock t := by simpa only [each] using passed
      rw [pollUntil, each] at asked
      simp only at asked
      split at asked
      · next done =>
        obtain ⟨-, rfl, rfl⟩ := by simpa only [Prod.mk.injEq] using asked
        simpa using done
      · rcases others : pollUntil k deadline (rounds + 1) pending (k.sleep pollInterval t)
          with ⟨more, rest, u⟩
        simp only [others, Prod.mk.injEq] at asked
        obtain ⟨-, rfl, rfl⟩ := asked
        have slept := lasts t
        refine ih ?_ others
        rw [Nat.succ_mul] at long
        omega

/-! ### Waits that never come back -/

/-- Waits for a child that were interrupted, so many of them. -/
def interruptions (pid : Pid) (count : Nat) : List Event :=
  List.replicate count (.awaited pid (.failed Errno.interrupted))

section Stuck

variable {pid : Pid} {s : σ}

theorem waitWithin_stuck (faithful : k.Faithful history) {fuel : Nat} (enough : k.backlog s < fuel)
    (stuck : waitWithin k pid fuel s = none) :
    ∃ count t, Passage (history s) (interruptions pid count) (history t) ∧ k.await pid t = none := by
  induction fuel generalizing s with
  | zero => omega
  | succ fuel ih =>
      rw [waitWithin_succ] at stuck
      cases awaited : k.await pid s with
      | none => exact ⟨0, s, .refl _, awaited⟩
      | some reached =>
          obtain ⟨answer, t⟩ := reached
          have passage := faithful.await awaited
          obtain ⟨g, -, ⟨loud, fits⟩, -⟩ := passage.cons
          simp only [awaited] at stuck
          rcases WaitAnswer.Fits.cases_only fits with rfl | rfl | ⟨how, rfl⟩ | ⟨rfl, -⟩
          · exact absurd rfl loud
          · have fewer : k.backlog t < k.backlog s := faithful.await_backlog awaited rfl
            obtain ⟨count, u, later, never⟩ := ih (by omega) stuck
            exact ⟨count + 1, u, passage.trans later, never⟩
          · rw [reading_changed_word] at stuck
            cases verdict : how.verdict <;> simp [verdict, Except.map] at stuck
          · simp [WaitAnswer.reading, WaitAnswer.termination, Errno.noChild, Errno.interrupted] at stuck

/-- A wait that does not come back was interrupted some number of times, and then the system never answered. -/
theorem waitFor_stuck (faithful : k.Faithful history) (stuck : waitFor k pid s = none) :
    ∃ count t, Passage (history s) (interruptions pid count) (history t) ∧ k.await pid t = none :=
  waitWithin_stuck faithful (Nat.lt_succ_self _) stuck

theorem launch_stuck (faithful : k.Faithful history) {c : Command} {foregroundOnly : Bool}
    (stuck : launch k c foregroundOnly s = none) :
    ∃ plan pid count t, LaunchPlan.ofCommand c false = .ok plan ∧
      Passage (history s) (.forked plan pid :: interruptions pid count) (history t) ∧
      k.await pid t = none := by
  obtain ⟨foreground, plan, pid, made, planned, forked, never⟩ := launch_eq_none stuck
  rw [foreground] at planned
  obtain ⟨count, t, waiting, held⟩ := waitFor_stuck faithful never
  exact ⟨plan, pid, count, t, planned, (faithful.fork_ok forked).trans waiting, held⟩

/-- A line that does not come to an end waits for the child that it has made for the foreground. -/
theorem executeLine_stuck (faithful : k.Faithful history) {text : String} {sh : Shell σ}
    (stuck : sh.executeLine k text = none) :
    ∃ seen plan pid count t, plan.foreground = true ∧
      Passage (history sh.system) (.counted seen :: .forked plan pid :: interruptions pid count)
        (history t) ∧
      k.await pid t = none := by
  obtain ⟨c, -, held⟩ := launchCommand_of_executeLine_none stuck
  have counting := faithful.toggles sh.system
  rcases counted : k.toggles sh.system with ⟨seen, s⟩
  simp only [counted] at counting
  rw [launchCommand_eq counted, Option.map_eq_none_iff] at held
  obtain ⟨plan, pid, count, t, planned, passage, never⟩ := launch_stuck faithful held
  exact ⟨seen, plan, pid, count, t, LaunchPlan.foreground_of_ofCommand planned, counting.trans passage, never⟩

/-- Killing that does not come to an end waits for a child that has just been sent the signal. -/
theorem killEach_stuck (faithful : k.Faithful history) {pids : List Pid}
    (stuck : killEach k pids s = none) :
    ∃ pid ∈ pids, ∃ before count t,
      Passage (history s) (before ++ .signalled pid .kill :: interruptions pid count) (history t) ∧
        k.await pid t = none := by
  induction pids generalizing s with
  | nil => simp [killEach] at stuck
  | cons pid rest ih =>
      have noted := faithful.note (collectWarning s!"pid {pid} ignored SIGTERM, killing it") s
      have sent := noted.trans (send_passage faithful pid .kill _)
      rcases waited : waitFor k pid (send k pid .kill
          (k.note (collectWarning s!"pid {pid} ignored SIGTERM, killing it") s)) with _ | ⟨answer, t⟩
      · obtain ⟨count, t, waiting, never⟩ := waitFor_stuck faithful waited
        exact ⟨pid, List.mem_cons_self, [], count, t, sent.trans waiting, never⟩
      · rcases others : killEach k rest t with _ | ⟨later, u⟩
        · obtain ⟨interrupted, answer', -, waiting⟩ := waitFor_passage faithful waited
          obtain ⟨other, inside, before, count, u, remaining, never⟩ := ih others
          have whole := (sent.trans waiting).trans remaining
          refine ⟨other, List.mem_cons_of_mem _ inside,
            .signalled pid .kill :: waits pid interrupted answer' ++ before, count, u, ?_, never⟩
          simpa only [List.nil_append, List.append_assoc, List.cons_append] using whole
        · cases answer <;> simp only [killEach, waited, others, reduceCtorEq] at stuck

end Stuck

/-! ### The parts of a shutdown -/

/-- The system when a shutdown has asked every child in the list to end. -/
def Shell.asked (k : Kernel σ) (sh : Shell σ) : σ :=
  sh.state.background.foldl (fun s pid => send k pid .terminate s)
    (k.note (shutdownNote sh.state.background.length) sh.system)

/-- Whom a shutdown finds still there at the end of the grace period, and the system then. -/
def Shell.afterGrace (k : Kernel σ) (sh : Shell σ) : List Pid × σ :=
  (pollUntil k (k.clock (sh.asked k) + shutdownGrace * 1000) (roundsWithin shutdownGrace)
    sh.state.background (sh.asked k)).2

/-- Whether an event is a call by which a child is asked to end, or asked after without waiting. -/
def Event.IsPolite : Event → Prop
  | signalled _ .terminate | polled (.only _) _ => True
  | _ => False

section Shutdown

variable (k)

/-- A shutdown with children left kills those that are there after the grace period. -/
theorem shutdown_eq_killEach {sh : Shell σ} (some : sh.state.background ≠ []) :
    sh.shutdown k =
      (killEach k (sh.afterGrace k).1 (sh.afterGrace k).2).map fun ended =>
        { sh with state := { sh.state with background := [] }, system := ended.2 } := by
  rw [shutdown_eq k some]
  simp only [stopAll, Shell.afterGrace, Shell.asked]
  generalize pollUntil k _ _ _ _ = polled
  cases killEach k polled.2.1 polled.2.2 <;> rfl

variable {k}

/-- Up to the end of the grace period a shutdown is polite. -/
theorem afterGrace_passage (faithful : k.Faithful history) (sh : Shell σ) :
    ∃ polite, (∀ call ∈ polite, call.IsPolite) ∧
      Passage (history sh.system) polite (history (sh.afterGrace k).2) := by
  have asking : Passage (history sh.system) (askings sh.state.background) (history (sh.asked k)) :=
    (faithful.note (shutdownNote sh.state.background.length) sh.system).trans
      (askings_passage faithful sh.state.background _)
  rcases polled : pollUntil k (k.clock (sh.asked k) + Shell.shutdownGrace * 1000)
    (roundsWithin Shell.shutdownGrace) sh.state.background (sh.asked k) with ⟨ended, left, t⟩
  obtain ⟨calls, rounds, polling⟩ := pollUntil_passage faithful polled
  refine ⟨askings sh.state.background ++ calls, fun call member => ?_, ?_⟩
  · rcases List.mem_append.1 member with asked | polled
    · obtain ⟨pid, -, rfl⟩ := List.mem_map.1 asked
      trivial
    · obtain ⟨pid, answer, rfl, -⟩ := rounds.polled polled
      trivial
  · rw [Shell.afterGrace, polled]
    exact asking.trans polling

/-- Whoever is there at the end of the grace period is there when that time has passed. -/
theorem afterGrace_over (keeps : k.KeepsTime) {sh : Shell σ} {pid : Pid}
    (left : pid ∈ (sh.afterGrace k).1) :
    k.clock (sh.asked k) + Shell.shutdownGrace * 1000 ≤ k.clock (sh.afterGrace k).2 := by
  rcases polled : pollUntil k (k.clock (sh.asked k) + Shell.shutdownGrace * 1000)
    (roundsWithin Shell.shutdownGrace) sh.state.background (sh.asked k) with ⟨ended, still, t⟩
  rw [Shell.afterGrace, polled] at left ⊢
  have enough : Shell.shutdownGrace * 1000 =
      (Shell.shutdownGrace + pollInterval - 1) / pollInterval * (pollInterval * 1000) := by decide
  rcases pollUntil_deadline keeps (keeps.sleep pollInterval) (by rw [enough]) polled with rfl | late
  · simp at left
  · exact late

end Shutdown

/-! ### Where the shell may be held up -/

/-- Where a wait may hold the shell up, after some calls of an operation: right behind making the child for
the foreground; or right behind sending the child the signal that kills, which a shutdown does only to
whomever it finds still there when it has been polite for the whole grace period. -/
inductive MayBlock (k : Kernel σ) (history : σ → History) (sh : Shell σ) (pid : Pid) :
    Operation → List Event → Prop where
  | child {text : String} {seen : UInt64} {plan : LaunchPlan} (interrupted : Nat)
      (front : plan.foreground = true) :
      MayBlock k history sh pid (.line text)
        (.counted seen :: .forked plan pid :: interruptions pid interrupted)
  | killed {polite earlier : List Event} (interrupted : Nat) (calm : ∀ call ∈ polite, call.IsPolite)
      (asked : Passage (history sh.system) polite (history (sh.afterGrace k).2))
      (left : pid ∈ (sh.afterGrace k).1)
      (late : k.clock (sh.asked k) + Shell.shutdownGrace * 1000 ≤ k.clock (sh.afterGrace k).2) :
      MayBlock k history sh pid .shutdown
        (polite ++ (earlier ++ .signalled pid .kill :: interruptions pid interrupted))

/-- The place of a wait in a row of waits is behind interruptions only. -/
theorem place_in_waits {pid other : Pid} {interrupted : Nat} {answer told : WaitAnswer}
    {before after : List Event}
    (split : waits pid interrupted answer = before ++ .awaited other told :: after) :
    other = pid ∧ ∃ count, before = interruptions pid count := by
  induction interrupted generalizing before with
  | zero =>
      cases before with
      | nil =>
          obtain ⟨same, -⟩ := List.cons.inj split
          exact ⟨(Event.awaited.inj same).1.symm, 0, rfl⟩
      | cons first rest => simp [waits] at split
  | succ interrupted ih =>
      cases before with
      | nil =>
          obtain ⟨same, -⟩ := List.cons.inj split
          exact ⟨(Event.awaited.inj same).1.symm, 0, rfl⟩
      | cons first rest =>
          obtain ⟨rfl, others⟩ := List.cons.inj split
          obtain ⟨rfl, count, rfl⟩ := ih others
          exact ⟨rfl, count + 1, rfl⟩

/-- The same behind the event that makes the child. -/
theorem place_behind_forked {plan : LaunchPlan} {pid other : Pid} {interrupted : Nat}
    {answer told : WaitAnswer} {before after : List Event}
    (split : .forked plan pid :: waits pid interrupted answer = before ++ .awaited other told :: after) :
    other = pid ∧ ∃ count, before = .forked plan other :: interruptions other count := by
  cases before with
  | nil => simp at split
  | cons first rest =>
      obtain ⟨rfl, others⟩ := List.cons.inj split
      obtain ⟨rfl, count, rfl⟩ := place_in_waits others
      exact ⟨rfl, count, rfl⟩

theorem awaited_notMem_aftermath {status : Termination} {reported seen : UInt64} {pid : Pid}
    {answer : WaitAnswer} : .awaited pid answer ∉ deathNotice status ++ modeReport reported seen := by
  cases status <;> simp [deathNotice, modeReport, Event.said]

/-- The place of a wait among the calls of a launch is behind the child made for the foreground. -/
theorem Launched.place {state state' : ShellState} {calls before after : List Event} {pid : Pid}
    {answer : WaitAnswer} (launched : Launched state calls state')
    (split : calls = before ++ .awaited pid answer :: after) :
    ∃ plan count, LaunchPlan.foreground plan = true ∧
      before = .forked plan pid :: interruptions pid count := by
  have among : .awaited pid answer ∈ calls := by simp [split]
  cases launched with
  | refused => simp at among
  | @waited plan other how interrupted reported seen front named =>
      rcases place_in_append split with ⟨rest, here, -⟩ | ⟨between, -, there⟩
      · obtain ⟨-, count, same⟩ := place_behind_forked here
        exact ⟨plan, count, front, same⟩
      · have told : .awaited pid answer ∈ deathNotice how.status ++ modeReport reported seen := by
          simp [there]
        exact absurd told awaited_notMem_aftermath
  | @lost plan other how interrupted front nameless =>
      obtain ⟨-, count, same⟩ := place_behind_forked split
      exact ⟨plan, count, front, same⟩
  | running => simp [Event.announcement, Event.said] at among
  | prompt => simp [Event.announcement, Event.report, Event.said] at among
  | unread => simp at among

/-- The place of a wait among the calls of killing is behind the signal that kills the child. -/
theorem Killing.place {pids : List Pid} {calls before after : List Event} {pid : Pid}
    {answer : WaitAnswer} (killing : Killing pids calls)
    (split : calls = before ++ .awaited pid answer :: after) :
    pid ∈ pids ∧ ∃ earlier count,
      before = earlier ++ .signalled pid .kill :: interruptions pid count := by
  induction killing generalizing before after with
  | done => simp at split
  | @killed first rest told result calls interrupted settled others ih =>
      rcases place_in_append split with ⟨_, here, -⟩ | ⟨between, rfl, there⟩
      · cases before with
        | nil => simp at here
        | cons event earlier =>
            obtain ⟨rfl, waiting⟩ := List.cons.inj here
            obtain ⟨rfl, count, rfl⟩ := place_in_waits waiting
            exact ⟨List.mem_cons_self, [], count, rfl⟩
      · obtain ⟨inside, earlier, count, rfl⟩ := ih there
        exact ⟨List.mem_cons_of_mem _ inside,
          .signalled first .kill :: waits first interrupted told ++ earlier, count, by simp⟩

section

variable {sh sh' : Shell σ}

/-- The place of a wait in a shutdown is where it may hold the shell up. -/
theorem shutdown_blocks (faithful : k.Faithful history) (keeps : k.KeepsTime) {pid : Pid}
    {answer : WaitAnswer} {events before after : List Event} (stopped : sh.shutdown k = some sh')
    (happened : history sh'.system = history sh.system ++ events)
    (split : events.filter Event.isCall = before ++ .awaited pid answer :: after) :
    MayBlock k history sh pid .shutdown before := by
  by_cases nobody : sh.state.background = []
  · obtain rfl : { sh with state := { sh.state with background := [] } } = sh' := by
      simpa [Shell.shutdown, ShellState.takeBackground, nobody] using stopped
    simp [List.self_eq_append_right.1 happened] at split
  · rw [shutdown_eq_killEach k nobody] at stopped
    obtain ⟨⟨killed, t⟩, ended, rfl⟩ := Option.map_eq_some_iff.1 stopped
    obtain ⟨polite, calm, asking⟩ := afterGrace_passage faithful sh
    obtain ⟨calls, killing, waiting⟩ := killEach_passage faithful ended
    rw [(asking.trans waiting).filter_eq happened] at split
    rcases place_in_append split with ⟨_, here, -⟩ | ⟨_, rfl, there⟩
    · have impolite : Event.IsPolite (.awaited pid answer) := calm _ (by simp [here])
      exact impolite.elim
    · obtain ⟨left, earlier, count, rfl⟩ := killing.place there
      exact .killed count calm asking left (afterGrace_over keeps left)

/-- Every wait of an operation that comes to an end stands where it may hold the shell up. -/
theorem perform_blocks (faithful : k.Faithful history) (keeps : k.KeepsTime) {operation : Operation}
    {pid : Pid} {answer : WaitAnswer} {events before after : List Event}
    (performed : operation.perform k sh = some sh')
    (happened : history sh'.system = history sh.system ++ events)
    (split : events = before ++ .awaited pid answer :: after) :
    MayBlock k history sh pid operation (before.filter Event.isCall) := by
  obtain ⟨deed, -⟩ := perform_events faithful performed happened
  have calls : events.filter Event.isCall =
      before.filter Event.isCall ++ .awaited pid answer :: after.filter Event.isCall := by
    rw [split, List.filter_append, List.filter_cons_of_pos rfl]
  have among : .awaited pid answer ∈ events.filter Event.isCall := by simp [calls]
  cases operation with
  | shutdown => exact shutdown_blocks faithful keeps performed happened calls
  | line text =>
      generalize events.filter Event.isCall = made at deed calls among
      generalize sh'.state = state' at deed
      cases deed with
      | idle => simp at among
      | moved => simp at among
      | told => simp [Event.said] at among
      | launched _ seen launched =>
          generalize before.filter Event.isCall = earlier at calls
          cases earlier with
          | nil => simp at calls
          | cons first rest =>
              obtain ⟨rfl, others⟩ := List.cons.inj calls
              obtain ⟨plan, count, front, rfl⟩ := launched.place others
              exact .child count front
  | reportModes =>
      generalize events.filter Event.isCall = made at deed among
      generalize sh'.state = state' at deed
      cases deed with
      | announced reported seen => simp [modeReport, Event.said] at among
  | reportFinished =>
      generalize events.filter Event.isCall = made at deed among
      generalize sh'.state = state' at deed
      cases deed with
      | swept swept =>
          rcases List.mem_append.1 among with asked | told
          · obtain ⟨_, same⟩ := swept.mem asked
            cases same
          · obtain ⟨child, -, same⟩ := List.mem_map.1 told
            cases same

/-- An operation that never comes to an end is held up where it may be. -/
theorem perform_stuck (faithful : k.Faithful history) (keeps : k.KeepsTime) {operation : Operation}
    (stuck : operation.perform k sh = none) :
    ∃ pid calls t, Passage (history sh.system) calls (history t) ∧
      MayBlock k history sh pid operation calls ∧ k.await pid t = none := by
  cases operation with
  | line text =>
      obtain ⟨seen, plan, pid, count, t, front, passage, never⟩ :=
        executeLine_stuck faithful (Option.map_eq_none_iff.1 stuck)
      exact ⟨pid, _, t, passage, .child count front, never⟩
  | reportModes => simp [Operation.perform] at stuck
  | reportFinished => simp [Operation.perform] at stuck
  | shutdown =>
      by_cases nobody : sh.state.background = []
      · simp [Operation.perform, Shell.shutdown, ShellState.takeBackground, nobody] at stuck
      · rw [Operation.perform, shutdown_eq_killEach k nobody, Option.map_eq_none_iff] at stuck
        obtain ⟨polite, calm, asking⟩ := afterGrace_passage faithful sh
        obtain ⟨pid, left, earlier, count, t, killing, never⟩ := killEach_stuck faithful stuck
        exact ⟨pid, _, t, asking.trans killing,
          .killed count calm asking left (afterGrace_over keeps left), never⟩

/-- What a line does about a child that it makes.  The child is made for the foreground, unless the command
asks for the background and the mode, as it was read before, lets it.  If it is, the child has ended and been
handed over by the end of the line, and is not there any more; if it is not, the line does not wait. -/
def Attends (history : σ → History) (text : String) (events : List Event) (finish : Shell σ)
    (plan : LaunchPlan) (pid : Pid) : Prop :=
  ∃ c seen, Command.parse text = .ok (some c) ∧
    [.counted seen, .forked plan pid].Sublist events ∧
    plan.foreground = !runsInBackground c (ModeSwitch.isForegroundOnly { toggles := seen }) ∧
    (plan.foreground = true →
      (∃ how, [.forked plan pid, .ended pid how, .awaited pid (.changed pid how.word)].Sublist events) ∧
        pid ∉ (history finish.system).numbers) ∧
    (plan.foreground = false → ∀ other answer, .awaited other answer ∉ events)

theorem executeLine_attends (faithful : k.Faithful history) {text : String}
    {result : Except Failure Flow} {events : List Event} {plan : LaunchPlan} {pid : Pid}
    (executed : sh.executeLine k text = some (result, sh'))
    (happened : history sh'.system = history sh.system ++ events)
    (made : .forked plan pid ∈ events) : Attends history text events sh' plan pid := by
  obtain ⟨c, parsed, launched⟩ := executeLine_launches faithful executed happened made
  obtain ⟨seen, s, outcome, t, -, makes, settled⟩ := launchCommand_makes faithful launched happened made
  obtain ⟨told, aside, telling⟩ := settleLaunch_passage faithful sh t outcome
  rw [← settled] at telling
  cases makes with
  | foreground interruptions how waited front passage =>
      obtain ⟨order, gone⟩ := Passage.handedOver (passage.trans telling)
        (fun call member => (aside call member).makes) happened
      refine ⟨c, seen, parsed, (List.prefix_append [_, _] _).sublist.trans order, ?_,
        fun _ => ⟨⟨how, (List.sublist_cons_self _ _).trans order⟩, gone⟩, by simp [front]⟩
      rw [front]
      exact (congrArg not waited).symm
  | background answer honoured behind passage =>
      have calls := (passage.trans telling).filter_eq happened
      refine ⟨c, seen, parsed, ?order, ?_, by simp [behind], fun _ other answer' member => ?_⟩
      case order =>
        have order : [.counted seen, .forked plan pid].Sublist (events.filter Event.isCall) := by
          rw [calls]
          exact (List.prefix_append [_, _] _).sublist
        exact order.trans List.filter_sublist
      · rw [behind]
        exact (congrArg not honoured).symm
      · have among : .awaited other answer' ∈ events.filter Event.isCall :=
          List.mem_filter.2 ⟨member, rfl⟩
        rw [calls] at among
        rcases List.mem_append.1 among with here | there
        · simp at here
        · rcases aside _ there with ⟨_, same⟩ | ⟨_, _, same⟩ <;> cases same

end

/-! ### Whole courses -/

section

variable {ρ : Type} {source : LineSource ρ σ} {emphasis : Emphasis}

/-- A stage waits for a child only where it may be held up. -/
theorem Course.blocks (faithful : k.Faithful history) (keeps : k.KeepsTime)
    (modest : source.IsModest history) {r r' : ρ} {sh sh' : Shell σ} {legs : List (Leg σ)}
    (course : Course k source emphasis history r sh legs r' sh') {leg : Leg σ} (member : leg ∈ legs)
    {before after : List Event} {pid : Pid} {answer : WaitAnswer}
    (split : leg.events = before ++ .awaited pid answer :: after) :
    ∃ operation, leg.stage.operation = some operation ∧
      MayBlock k history leg.start pid operation (before.filter Event.isCall) := by
  obtain ⟨⟨r₁, r₂, taken⟩, happened⟩ := course.taken leg member
  cases performing : leg.stage.operation with
  | some operation =>
      exact ⟨operation, rfl, perform_blocks faithful keeps (taken.performs performing) happened split⟩
  | none =>
      obtain ⟨calls, written, passage⟩ := taken.writes faithful modest performing
      have among : .awaited pid answer ∈ calls := by
        rw [← passage.filter_eq happened, split]
        simp [Event.isCall]
      obtain ⟨stream, text, impossible⟩ := written _ among
      cases impossible

/-- What is no line makes no child. -/
theorem Deed.makes {state state' : ShellState} {operation : Operation} {calls : List Event}
    (deed : Deed state operation calls state') (other : ∀ text, operation ≠ .line text) :
    ∀ call ∈ calls, call.makes = none := by
  intro call member
  cases deed with
  | announced => exact (isPlain_of_mem_modeReport member).1
  | swept swept =>
      rcases List.mem_append.1 member with asked | told
      · exact swept.makes call asked
      · obtain ⟨child, -, rfl⟩ := List.mem_map.1 told
        rfl
  | stopped stopped => exact stopped.makes call member
  | idle text => exact absurd rfl (other text)
  | moved text => exact absurd rfl (other text)
  | told text => exact absurd rfl (other text)
  | launched text => exact absurd rfl (other text)

/-- A child is made only by a line, which attends to it. -/
theorem Course.attends (faithful : k.Faithful history) (modest : source.IsModest history) {r r' : ρ}
    {sh sh' : Shell σ} {legs : List (Leg σ)}
    (course : Course k source emphasis history r sh legs r' sh') {leg : Leg σ} (member : leg ∈ legs)
    {plan : LaunchPlan} {pid : Pid} (made : .forked plan pid ∈ leg.events) :
    ∃ text result, leg.stage = .execute text result ∧
      Attends history text leg.events leg.finish plan pid := by
  obtain ⟨⟨r₁, r₂, taken⟩, happened⟩ := course.taken leg member
  have barren (without : ∀ call ∈ leg.events.filter Event.isCall, call.makes = none) : False := by
    have none := without _ (List.mem_filter.2 ⟨made, rfl⟩)
    simp [Event.makes] at none
  cases performing : leg.stage.operation with
  | none =>
      obtain ⟨calls, written, passage⟩ := taken.writes faithful modest performing
      refine (barren fun call inside => ?_).elim
      rw [passage.filter_eq happened] at inside
      obtain ⟨stream, text, rfl⟩ := written call inside
      rfl
  | some operation =>
      obtain ⟨deed, -⟩ := perform_events faithful (taken.performs performing) happened
      cases operation with
      | line text =>
          obtain ⟨result, stage⟩ := Stage.eq_execute performing
          rw [stage] at taken
          exact ⟨text, result, stage, executeLine_attends faithful taken.executed happened made⟩
      | reportModes => exact (barren (deed.makes (by simp))).elim
      | reportFinished => exact (barren (deed.makes (by simp))).elim
      | shutdown => exact (barren (deed.makes (by simp))).elim

/-- Wherever a course of the shell leads: every wait in it stands where it may hold the shell up; every child
made in it is made by a line, which attends to it; and an operation that never comes to an end behind it is
held up in such a wait.  A run that comes to an end is such a course.  One that does not has read more than
the source promises, or its course leads to a reading or to an operation that never comes to an end. -/
theorem blocks_only_where_it_may (faithful : k.Faithful history) (keeps : k.KeepsTime)
    (modest : source.IsModest history) (emphasis : Emphasis) (r : ρ) (sh : Shell σ) :
    (∀ legs r' sh', Course k source emphasis history r sh legs r' sh' →
      (∀ leg ∈ legs, ∀ before pid answer after,
        leg.events = before ++ .awaited pid answer :: after →
        ∃ operation, leg.stage.operation = some operation ∧
          MayBlock k history leg.start pid operation (before.filter Event.isCall)) ∧
      (∀ leg ∈ legs, ∀ plan pid, .forked plan pid ∈ leg.events →
        ∃ text result, leg.stage = .execute text result ∧
          Attends history text leg.events leg.finish plan pid) ∧
      ∀ operation, Operation.perform k sh' operation = none →
        ∃ pid calls t, Passage (history sh'.system) calls (history t) ∧
          MayBlock k history sh' pid operation calls ∧ k.await pid t = none) ∧
    (∀ result ended, sh.run k source emphasis r = some (result, ended) →
      ∃ legs r', Course k source emphasis history r sh legs r' ended) ∧
    (sh.run k source emphasis r = none →
      ∃ legs r' sh', Course k source emphasis history r sh legs r' sh' ∧
        ((∃ outcomes, Gives source r outcomes r' ∧ source.bound r sh.system < outcomes.length) ∨
          source.next r' sh'.system = none ∨
          ∃ operation, Operation.perform k sh' operation = none)) := by
  refine ⟨fun legs r' sh' course => ⟨?waits, ?children, ?stuck⟩, ?ends, ?hangs⟩
  case waits =>
    exact fun leg member before pid answer after => course.blocks faithful keeps modest member
  case children => exact fun leg member plan pid => course.attends faithful modest member
  case stuck => exact fun operation => perform_stuck faithful keeps
  case ends =>
    intro result ended ran
    obtain ⟨_, _, r', -, -, legs, -, course⟩ := run_follows faithful modest ran
    exact ⟨legs, r', course⟩
  case hangs =>
    intro ran
    obtain ⟨exchanges, r', sh', ⟨long, given, legs, -, course⟩ |
      ⟨_, _, hold, -, legs, -, course⟩ | ⟨close, stuck, -, legs, -, course⟩⟩ :=
      run_held faithful modest ran
    · exact ⟨legs, r', sh', course, .inl ⟨_, given, by simp [long]⟩⟩
    · refine ⟨legs, r', sh', course, .inr ?_⟩
      cases hold with
      | reading never => exact .inl never
      | line text never => exact .inr ⟨.line text, by simp [Operation.perform, never]⟩
    · exact ⟨legs, r', sh', course, .inr (.inr ⟨.shutdown, stuck⟩)⟩

end

/-- Time in a rehearsal goes on by sleeping only. -/
theorem Rehearsal.keepsTime : Rehearsal.kernel.KeepsTime where
  poll _ _ := Nat.le_refl _
  sleep _ _ := Nat.le_refl _

/-- A shell that waits for one child in the foreground and has another one in the background to kill. -/
theorem blocks_only_where_it_may_rehearsed :
    let sh := Rehearsal.shell { input := [97, 10, 98, 32, 38, 10], endings := [.exited 3] }
    let source := LineBuffer.source Rehearsal.kernel
    (sh.run Rehearsal.kernel source .plain {}).isSome = true ∧
      ∀ result ended, sh.run Rehearsal.kernel source .plain {} = some (result, ended) →
        ∃ legs r', Course Rehearsal.kernel source .plain Rehearsal.happened {} sh legs r' ended ∧
          ∀ leg ∈ legs, ∀ before pid answer after,
            leg.events = before ++ .awaited pid answer :: after →
            ∃ operation, leg.stage.operation = some operation ∧
              MayBlock Rehearsal.kernel Rehearsal.happened leg.start pid operation
                (before.filter Event.isCall) := by
  intro sh source
  obtain ⟨courses, ends, -⟩ := blocks_only_where_it_may Rehearsal.faithful Rehearsal.keepsTime
    (LineBuffer.source_isModest Rehearsal.faithful) .plain {} sh
  refine ⟨by decide +kernel, fun result ended ran => ?_⟩
  obtain ⟨legs, r', course⟩ := ends result ended ran
  exact ⟨legs, r', course, (courses legs r' ended course).1⟩

end JobShell
