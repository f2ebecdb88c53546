/-
Module: JobShell.Proofs.ForegroundStatus
Purpose: What becomes of a line that runs a program in the foreground.  If the program ends in a way that has
  a name, the line remembers it, says so if a signal killed it, and announces the modes entered meanwhile.  If
  it ends by a signal without a name, the child is collected all the same, but the line fails: its ending is
  not remembered, nothing is said of it, and the modes wait for the next report.
Main exports: Remembers, Forgets, foreground_status, exists_forgotten
-/
import JobShell.Proofs.Blocking

namespace JobShell

variable {σ : Type}

/-- What a line does when its child has ended in a way that has a name: it goes on; the ending is remembered
and nothing else; behind the wait stand the notice of the signal, if one killed the child, and then the
announcements of all modes up to a count that is read there. -/
structure Remembers (history : σ → History) (sh sh' : Shell σ) (result : Except Failure Flow)
    (events : List Event) (plan : LaunchPlan) (pid : Pid) (how : Ending) : Prop where
  goesOn : result = .ok .proceed
  state : sh'.state = sh.state.recordStatus how.status
  calls : ∃ seen interruptions, events.filter Event.isCall =
    .counted seen :: .forked plan pid :: waits pid interruptions (.changed pid how.word) ++
      (deathNotice how.status ++ modeReport sh.reported sh'.reported)
  upToDate : ∃ before after, events = before ++ .counted sh'.reported :: after ∧
    .awaited pid (.changed pid how.word) ∈ before ∧
    sh'.reported = UInt64.ofNat (History.suspensions (history sh.system ++ before))

/-- What a line does when its child has ended by a signal without a name: it fails, and nothing is remembered,
said or announced. -/
structure Forgets (sh sh' : Shell σ) (result : Except Failure Flow) (events : List Event)
    (plan : LaunchPlan) (pid : Pid) (how : Ending) : Prop where
  fails : result = .error (.process (.wait Errno.invalid))
  state : sh'.state = sh.state
  reported : sh'.reported = sh.reported
  calls : ∃ seen interruptions, events.filter Event.isCall =
    .counted seen :: .forked plan pid :: waits pid interruptions (.changed pid how.word)

section

variable {k : Kernel σ} {history : σ → History} {sh sh' : Shell σ}

/-- The count that is read in a passage is that of all suspensions before. -/
theorem Passage.upToDate {h g h' : History} {calls told : List Event} {seen : UInt64}
    {events : List Event} (first : Passage h calls g) (second : Passage g (.counted seen :: told) h')
    (happened : h' = h ++ events) :
    ∃ before after, events = before ++ .counted seen :: after ∧ (∀ call ∈ calls, call ∈ before) ∧
      seen = UInt64.ofNat (History.suspensions (h ++ before)) := by
  obtain ⟨early, rfl, -, rfl⟩ := first
  obtain ⟨_, ⟨between, rfl, -, -⟩, fits, later, rfl, -, -⟩ := second.cons
  refine ⟨early ++ between, later, ?_, fun call member => ?_, ?_⟩
  · simpa using happened.symm
  · exact List.mem_append_left _ (List.mem_filter.1 member).1
  · rw [← List.append_assoc]
    exact fits

/-- A launch for the foreground deals with the ending of its child. -/
theorem launchCommand_status (faithful : k.Faithful history) {c : Command} {result : Except Failure Flow}
    {events : List Event} {plan : LaunchPlan} {pid : Pid}
    (launched : sh.launchCommand k c = some (result, sh'))
    (happened : history sh'.system = history sh.system ++ events)
    (made : .forked plan pid ∈ events)
    (front : runsInBackground c
      (ModeSwitch.isForegroundOnly { toggles := (k.toggles sh.system).1 }) = false) :
    ∃ how, [.forked plan pid, .ended pid how, .awaited pid (.changed pid how.word)].Sublist events ∧
      (how.isNamed = true → Remembers history sh sh' result events plan pid how) ∧
      (how.isNamed = false → Forgets sh sh' result events plan pid how) := by
  obtain ⟨seen, s, outcome, t, counted, makes, settled⟩ := launchCommand_makes faithful launched happened made
  obtain ⟨told, aside, telling⟩ := settleLaunch_passage faithful sh t outcome
  rw [← settled] at telling
  rw [counted] at front
  cases makes with
  | background answer honoured => simp [honoured] at front
  | foreground interruptions how waited ahead passage =>
      have barren : ∀ call ∈ told, call.makes = none := by
        intro call member
        rcases aside call member with ⟨_, rfl⟩ | ⟨_, _, rfl⟩ <;> rfl
      obtain ⟨order, -⟩ := Passage.handedOver (passage.trans telling) barren happened
      refine ⟨how, (List.sublist_cons_self _ _).trans order, fun named => ?_, fun nameless => ?_⟩
      · rw [Ending.verdict_of_isNamed named] at settled
        obtain ⟨rfl, rfl⟩ := Prod.mk.inj settled
        obtain ⟨same, telling⟩ := afterForeground_passage faithful how.status { sh with system := t }
        obtain ⟨g, death, modes⟩ := telling.split
        obtain ⟨before, after, parts, inside, count⟩ :=
          Passage.upToDate (passage.trans death) modes happened
        have waitedFor : .awaited pid (.changed pid how.word) ∈ before :=
          inside _ (by simp [waits])
        exact
          { goesOn := rfl
            state := same
            calls := ⟨seen, interruptions, (passage.trans telling).filter_eq happened⟩
            upToDate := ⟨before, after, parts, waitedFor, count⟩ }
      · rw [Ending.verdict_of_not_isNamed nameless] at settled
        obtain ⟨rfl, rfl⟩ := Prod.mk.inj settled
        exact
          { fails := rfl
            state := rfl
            reported := rfl
            calls := ⟨seen, interruptions, passage.filter_eq happened⟩ }

/-- A line whose child is made for the foreground, because its command asks for nothing else or because the
mode overrules it, comes to an end unless the system never answers a wait for that child; then the child has
ended and been handed over, and its ending is remembered and told if it has a name, but forgotten if not. -/
theorem foreground_status (faithful : k.Faithful history) {text : String} {c : Command}
    (parsed : Command.parse text = .ok (some c))
    (front : c.background = false ∨
      ModeSwitch.isForegroundOnly { toggles := (k.toggles sh.system).1 } = true) :
    (∀ result sh' events plan pid, sh.executeLine k text = some (result, sh') →
      history sh'.system = history sh.system ++ events → .forked plan pid ∈ events →
      ∃ how, [.forked plan pid, .ended pid how, .awaited pid (.changed pid how.word)].Sublist events ∧
        (how.isNamed = true → Remembers history sh sh' result events plan pid how) ∧
        (how.isNamed = false → Forgets sh sh' result events plan pid how)) ∧
    (sh.executeLine k text = none →
      ∃ seen plan pid interrupted t, LaunchPlan.foreground plan = true ∧
        Passage (history sh.system)
          (.counted seen :: .forked plan pid :: interruptions pid interrupted) (history t) ∧
        k.await pid t = none) := by
  refine ⟨fun result sh' events plan pid executed happened made => ?_, executeLine_stuck faithful⟩
  obtain ⟨other, same, launched⟩ := executeLine_launches faithful executed happened made
  obtain rfl : c = other := by simpa [parsed] using same
  refine launchCommand_status faithful launched happened made ?_
  rcases front with plain | overruled
  · simp [runsInBackground, Command.substitutePid, plain]
  · simp [runsInBackground, overruled]

end

/-- The mode overrules a line that asks for the background, and its child is killed by a signal with a name. -/
theorem foreground_status_rehearsed :
    let sh := Rehearsal.shell { happened := [.suspended], endings := [.killed 15 false (by decide)] }
    (sh.executeLine Rehearsal.kernel "a &").isSome = true ∧
      ∀ result sh' events plan pid, sh.executeLine Rehearsal.kernel "a &" = some (result, sh') →
        sh'.system.happened = sh.system.happened ++ events → .forked plan pid ∈ events →
        ∃ how, [.forked plan pid, .ended pid how, .awaited pid (.changed pid how.word)].Sublist events ∧
          (how.isNamed = true →
            Remembers Rehearsal.happened sh sh' result events plan pid how) ∧
          (how.isNamed = false → Forgets sh sh' result events plan pid how) := by
  intro sh
  exact ⟨by decide +kernel, (foreground_status Rehearsal.faithful (by rfl) (.inr (by rfl))).1⟩

/-- The same line and a signal without a name: the child has ended and is not there any more, but the line
fails, the status is still that of no child, and neither the signal nor the mode that was entered is told. -/
theorem exists_forgotten :
    ∃ (sh sh' : Shell Rehearsal) (result : Except Failure Flow) (how : Ending),
      sh.executeLine Rehearsal.kernel "a &" = some (result, sh') ∧
      .ended 100 how ∈ sh'.system.happened ∧ sh'.system.happened.numbers = [] ∧
      result = .error (.process (.wait Errno.invalid)) ∧
      how.status = .signaled 40 ∧ sh'.state.lastStatus = .success ∧
      sh'.system.happened.suspensions = 1 ∧ sh'.reported = 0 ∧
      ∀ stream text, .wrote stream text ∉ sh'.system.happened := by
  let sh := Rehearsal.shell { happened := [.suspended], endings := [.killed 40 false (by decide)] }
  have executed : (sh.executeLine Rehearsal.kernel "a &").map
      (fun reached => (reached.1, reached.2.state.lastStatus, reached.2.reported,
        reached.2.system.happened)) =
      some (.error (.process (.wait Errno.invalid)), .success, 0,
        [.suspended, .counted 1, .forked ⟨["a"], true, []⟩ 100, .ended 100 (.killed 40 false (by decide)),
          .awaited 100 (.changed 100 40)]) := by decide +kernel
  obtain ⟨⟨result, sh'⟩, ran, same⟩ := Option.map_eq_some_iff.1 executed
  obtain ⟨rfl, status, reported, happened⟩ := by simpa only [Prod.mk.injEq] using same
  refine ⟨sh, sh', _, .killed 40 false (by decide), ran, ?_⟩
  rw [status, reported, happened]
  exact ⟨by simp, by rfl, rfl, rfl, rfl, by rfl, rfl, by simp⟩

end JobShell
