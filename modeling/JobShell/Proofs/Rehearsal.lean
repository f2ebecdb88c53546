/-
Module: JobShell.Proofs.Rehearsal
Purpose: A small system that keeps its own history, on which the shell can be rehearsed.  It uses numbers
  again as soon as it may, a child runs on until somebody waits for it or lets it end, and nothing survives the
  signal that kills.  It is faithful and deadly, so what is proved of every such system is not empty.
Main exports: Rehearsal, Rehearsal.kernel, Rehearsal.faithful, Rehearsal.isDeadly, Rehearsal.play,
  Rehearsal.session_of_play
-/
import JobShell.Proofs.Session

namespace JobShell

/-- A system for rehearsals: what has happened, how the next children end that are waited for while they run,
the time in microseconds, and the input that is still to be read. -/
structure Rehearsal where
  happened : History := []
  endings : List Ending := []
  clock : Nat := 0
  input : Text.Bytes := []
deriving Repr, DecidableEq

namespace Rehearsal

/-- Lets an event happen. -/
def add (s : Rehearsal) (event : Event) : Rehearsal :=
  { s with happened := s.happened ++ [event] }

/-- The number of the next child: one more than all that are in use. -/
def nextNumber (s : Rehearsal) : Pid :=
  s.happened.numbers.foldl max 99 + 1

/-- The answer to a wait: the oldest child that has ended, if there is one. -/
def answer (target : WaitTarget) (s : Rehearsal) : WaitAnswer :=
  match s.happened.numbers.find? fun pid => target.admits pid && (s.happened.fate pid).isSome with
  | some pid => .changed pid ((s.happened.fate pid).elim 0 Ending.word)
  | none => if s.happened.numbers.any target.admits then .quiet else .failed Errno.noChild

/-- The ending by the signal that kills. -/
def slain : Ending :=
  .killed 9 false (by decide)

/-- Goes on until there is an answer about a child, if there ever is one. -/
def settle (pid : Pid) (s : Rehearsal) : Option Rehearsal :=
  if pid ∈ s.happened.numbers ∧ s.happened.fate pid = none then
    if s.happened.condemned pid then some (s.add (.ended pid slain))
    else
      match s.endings with
      | [] => none
      | how :: rest => some { s.add (.ended pid how) with endings := rest }
  else some s

/-- The calls of the shell. -/
def kernel : Kernel Rehearsal :=
  { fork := fun plan s => (.ok s.nextNumber, s.add (.forked plan s.nextNumber))
    await := fun pid s => (s.settle pid).map fun s' =>
      (s'.answer (.only pid), s'.add (.awaited pid (s'.answer (.only pid))))
    poll := fun target s => (s.answer target, s.add (.polled target (s.answer target)))
    backlog := fun s => s.happened.children.length
    kill := fun pid signal s => (.ok (), s.add (.signalled pid signal))
    sleep := fun milliseconds s => { s with clock := s.clock + milliseconds * 1000 }
    clock := clock
    toggles := fun s =>
      (UInt64.ofNat s.happened.suspensions, s.add (.counted (UInt64.ofNat s.happened.suspensions)))
    changeDirectory := fun path s => (.ok (), s.add (.moved path))
    workingDirectory := fun _ => none
    homeVariable := fun _ => none
    accountHome := fun _ => none
    read := fun limit s => some (.ok (s.input.take limit), { s with input := s.input.drop limit })
    unread := fun s => s.input.length
    write := fun stream text s => s.add (.wrote stream text)
    note := fun _ s => s
    listen := fun _ s => s
    arm := fun s => s }

/-! ### The rehearsed system is faithful -/

/-- A greatest number is at least as large as every one that it is taken of. -/
theorem le_foldl_max (numbers : List Int) (start : Int) :
    start ≤ numbers.foldl max start ∧ ∀ number ∈ numbers, number ≤ numbers.foldl max start := by
  induction numbers generalizing start with
  | nil => simp
  | cons first rest ih =>
      obtain ⟨above, others⟩ := ih (max start first)
      refine ⟨by simp only [List.foldl_cons]; omega, ?_⟩
      intro number member
      rcases List.mem_cons.1 member with rfl | inside
      · simp only [List.foldl_cons]
        omega
      · exact others number inside

/-- The next number is larger than all that are in use. -/
theorem nextNumber_fresh (s : Rehearsal) : s.nextNumber ∉ s.happened.numbers := by
  intro member
  have below := (le_foldl_max s.happened.numbers 99).2 _ member
  exact Int.not_lt.2 below (Int.lt_succ _)

/-- Every answer agrees with what has happened. -/
theorem answer_fits (target : WaitTarget) (s : Rehearsal) :
    (s.answer target).Fits s.happened target := by
  rw [answer]
  split
  · next pid found =>
    have wanted := List.find?_some found
    rw [Bool.and_eq_true] at wanted
    obtain ⟨how, known⟩ := Option.isSome_iff_exists.1 wanted.2
    exact ⟨List.mem_of_find?_eq_some found, wanted.1, how, known, by simp [known]⟩
  · next nobody =>
    rw [List.find?_eq_none] at nobody
    split
    · next there =>
      refine ⟨by simpa using there, fun pid member admitted => ?_⟩
      have running := nobody pid member
      simpa [admitted] using running
    · next absent => exact .inr ⟨rfl, by simpa using absent⟩

/-- The only failure is that there is no such child. -/
theorem answer_failed {target : WaitTarget} {s : Rehearsal} {reason : Errno}
    (told : s.answer target = .failed reason) : reason = Errno.noChild := by
  rw [answer] at told
  split at told
  · simp at told
  · split at told
    · simp at told
    · exact (WaitAnswer.failed.inj told).symm

/-- An answer is a report only if it hands over a child. -/
theorem fewer_of_isReport {target : WaitTarget} {s : Rehearsal} {event : Event}
    (asked : event = .polled target (s.answer target) ∨
      ∃ pid, target = .only pid ∧ event = .awaited pid (s.answer target))
    (report : (s.answer target).isReport = true) :
    (s.add event).happened.children.length < s.happened.children.length := by
  have fits := answer_fits target s
  cases told : s.answer target with
  | quiet => simp [told, WaitAnswer.isReport] at report
  | failed reason =>
      rw [told, answer_failed told] at report
      simp [WaitAnswer.isReport, Errno.noChild, Errno.interrupted] at report
  | changed pid word =>
      have collects : event.collects = some pid := by
        rcases asked with rfl | ⟨_, -, rfl⟩ <;> simp [told, Event.collects, WaitAnswer.collects]
      rw [told] at fits
      obtain ⟨child, member, same⟩ := List.mem_map.1 fits.1
      simp only [add, History.children_append, List.foldl_cons, List.foldl_nil,
        History.childrenAfter_of_collects collects]
      exact List.length_filter_lt_length_iff_exists.2 ⟨child, member, by simp [same]⟩

/-- There is something to tell of a child that has ended, or is not there. -/
theorem answer_ne_quiet {pid : Pid} {s : Rehearsal}
    (ready : pid ∈ s.happened.numbers → s.happened.fate pid ≠ none) :
    s.answer (.only pid) ≠ .quiet := by
  intro quiet
  have fits := answer_fits (.only pid) s
  rw [quiet] at fits
  obtain ⟨⟨other, there, admitted⟩, running⟩ := fits
  obtain rfl : pid = other := by simpa [WaitTarget.admits] using admitted
  exact ready there (running pid there admitted)

/-- A child that runs is let end, by nothing that the shell does. -/
theorem end_passage {pid : Pid} {how : Ending} {s s' : Rehearsal} (there : pid ∈ s.happened.numbers)
    (running : s.happened.fate pid = none) (same : s'.happened = s.happened ++ [.ended pid how]) :
    Passage s.happened [] s'.happened ∧ s'.answer (.only pid) ≠ .quiet := by
  refine ⟨same ▸ Passage.single (.ended pid how) ⟨there, running⟩, answer_ne_quiet fun _ => ?_⟩
  simp [same, History.fateAfter]

/-- Going on until there is an answer brings one, by nothing that the shell does. -/
theorem settle_passage {pid : Pid} {s s' : Rehearsal} (settled : s.settle pid = some s') :
    Passage s.happened [] s'.happened ∧ s'.answer (.only pid) ≠ .quiet := by
  rw [settle] at settled
  split at settled
  · next running =>
    split at settled
    · obtain rfl := Option.some.inj settled
      exact end_passage running.1 running.2 rfl
    · split at settled
      · simp at settled
      · obtain rfl := Option.some.inj settled
        exact end_passage running.1 running.2 rfl
  · next ready =>
    obtain rfl := Option.some.inj settled
    exact ⟨.refl _, answer_ne_quiet fun there running => ready ⟨there, running⟩⟩

/-- Every call of the rehearsed system shows in its history as what it did. -/
theorem faithful : kernel.Faithful happened where
  fork_ok := by
    rintro plan pid s s' forked
    obtain ⟨same, rfl⟩ := Prod.mk.inj forked
    obtain rfl := Except.ok.inj same
    exact Passage.single (.forked plan s.nextNumber) s.nextNumber_fresh
  fork_error := by
    rintro plan reason s s' forked
    exact absurd (Prod.mk.inj forked).1 (by simp)
  poll := by
    rintro target answer s s' polled
    obtain ⟨rfl, rfl⟩ := Prod.mk.inj polled
    exact Passage.single (.polled target (s.answer target)) (answer_fits target s)
  poll_backlog := by
    rintro target answer s s' polled report
    obtain ⟨rfl, rfl⟩ := Prod.mk.inj polled
    exact fewer_of_isReport (.inl rfl) report
  await := by
    rintro pid answer s s' awaited
    obtain ⟨t, settled, told⟩ := Option.map_eq_some_iff.1 awaited
    obtain ⟨rfl, rfl⟩ := Prod.mk.inj told
    obtain ⟨passage, loud⟩ := settle_passage settled
    exact passage.trans (Passage.single (.awaited pid (t.answer (.only pid)))
      ⟨loud, answer_fits (.only pid) t⟩)
  await_backlog := by
    rintro pid answer s s' awaited report
    obtain ⟨t, settled, told⟩ := Option.map_eq_some_iff.1 awaited
    obtain ⟨rfl, rfl⟩ := Prod.mk.inj told
    have fewer := fewer_of_isReport (.inr ⟨pid, rfl, rfl⟩) report
    rw [(settle_passage settled).1.children_eq_of_nil] at fewer
    exact fewer
  kill pid signal s := Passage.single (.signalled pid signal) trivial
  sleep _ _ := .refl _
  toggles s := Passage.single (.counted _) rfl
  changeDirectory_ok := by
    rintro path s s' changed
    obtain ⟨-, rfl⟩ := Prod.mk.inj changed
    exact Passage.single (.moved path) trivial
  changeDirectory_error := by
    rintro path reason s s' changed
    exact absurd (Prod.mk.inj changed).1 (by simp)
  read := by
    rintro limit result s s' read
    obtain ⟨-, rfl⟩ := Prod.mk.inj (Option.some.inj read)
    exact .refl _
  write stream text s := Passage.single (.wrote stream text) trivial
  note _ _ := .refl _
  listen _ _ := .refl _
  arm _ := .refl _

/-- Nothing survives the signal that kills. -/
theorem isDeadly : kernel.IsDeadly happened := by
  intro pid s doomed
  suffices settled : (s.settle pid).isSome = true by
    simpa [kernel] using settled
  rw [settle]
  split
  · next running =>
    rcases doomed running.1 with condemned | ended
    · simp [condemned]
    · simp [running.2] at ended
  · rfl

/-! ### Rehearsed runs -/

/-- What can be called for in a rehearsal: an operation of the shell, a child to end, or a suspend signal. -/
inductive Cue where
  | ask (operation : Operation)
  | ends (pid : Pid) (how : Ending)
  | suspend
deriving Repr, DecidableEq

/-- Takes a turn.  Only a child that is running can be called upon to end. -/
def take (sh : Shell Rehearsal) : Cue → Option (Turn × Shell Rehearsal)
  | .ask operation =>
      (operation.perform kernel sh).map fun sh' =>
        (⟨some operation, sh'.system.happened.drop sh.system.happened.length⟩, sh')
  | .ends pid how =>
      if pid ∈ sh.system.happened.numbers ∧ sh.system.happened.fate pid = none then
        some (⟨none, [.ended pid how]⟩, { sh with system := sh.system.add (.ended pid how) })
      else none
  | .suspend => some (⟨none, [.suspended]⟩, { sh with system := sh.system.add .suspended })

/-- Takes one turn after the other on top of those that have been taken. -/
def play : List Cue → List Turn × Shell Rehearsal → Option (List Turn × Shell Rehearsal)
  | [], reached => some reached
  | cue :: rest, (turns, sh) =>
      match take sh cue with
      | none => none
      | some (turn, sh') => play rest (turns ++ [turn], sh')

/-- A shell with a fresh memory in a rehearsal. -/
def shell (s : Rehearsal) : Shell Rehearsal :=
  { state := { pid := 99, directory := [47] }, system := s }

theorem session_of_take {first sh sh' : Shell Rehearsal} {turns : List Turn} {turn : Turn} {cue : Cue}
    (soFar : Session kernel happened first turns sh) (taken : take sh cue = some (turn, sh')) :
    Session kernel happened first (turns ++ [turn]) sh' := by
  cases cue with
  | ask operation =>
      obtain ⟨reached, performed, same⟩ := Option.map_eq_some_iff.1 taken
      obtain ⟨rfl, rfl⟩ := Prod.mk.inj same
      refine .perform operation soFar performed ?_
      obtain ⟨-, -, between, grown, -⟩ := perform_deed faithful performed
      rw [grown, List.drop_left]
  | ends pid how =>
      rw [take] at taken
      split at taken
      · next running =>
        obtain ⟨rfl, rfl⟩ := Prod.mk.inj (Option.some.inj taken)
        exact .meanwhile _ soFar ⟨running, trivial⟩ (by simp [Event.isCall]) rfl
      · simp at taken
  | suspend =>
      obtain ⟨rfl, rfl⟩ := Prod.mk.inj (Option.some.inj taken)
      exact .meanwhile _ soFar ⟨trivial, trivial⟩ (by simp [Event.isCall]) rfl

/-- A rehearsal is a run of the shell. -/
theorem session_of_play {first sh last : Shell Rehearsal} {turns taken : List Turn} {cues : List Cue}
    (soFar : Session kernel happened first turns sh)
    (played : play cues (turns, sh) = some (taken, last)) :
    Session kernel happened first taken last := by
  induction cues generalizing turns sh with
  | nil =>
      obtain ⟨rfl, rfl⟩ := Prod.mk.inj (Option.some.inj played)
      exact soFar
  | cons cue rest ih =>
      rw [play] at played
      split at played
      · simp at played
      · next turn reached here => exact ih (session_of_take soFar here) played

/-- What a rehearsal from the start comes to. -/
def result (s : Rehearsal) (cues : List Cue) : List Turn × Shell Rehearsal :=
  (play cues ([], shell s)).getD ([], shell s)

/-- A rehearsal that can be played to its end is a run from the start. -/
theorem session_result (s : Rehearsal) (cues : List Cue)
    (playable : (play cues ([], shell s)).isSome = true) :
    Session kernel happened (shell s) (result s cues).1 (result s cues).2 := by
  obtain ⟨⟨turns, last⟩, played⟩ := Option.isSome_iff_exists.1 playable
  simpa [result, played] using session_of_play .start played

end Rehearsal

end JobShell
