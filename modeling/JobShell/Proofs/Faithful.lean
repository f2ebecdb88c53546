/-
Module: JobShell.Proofs.Faithful
Purpose: What is asked of the system under the shell: every call shows in the history as what it did, and
  nothing but the events of `Event.Fits` ever happens in between.  From that follows what the questions
  after one child come to.
Main exports: Kernel.Faithful, Kernel.IsDeadly, waits, Settled, Understood, pollFor_passage,
  waitFor_passage, waitFor_isSome
-/
import JobShell.Launch
import JobShell.Proofs.History

namespace JobShell

variable {σ : Type}

/-- Whether an answer to a wait can be followed by another one: it told something, or was cut short. -/
def WaitAnswer.isReport : WaitAnswer → Bool
  | quiet => false
  | changed _ _ => true
  | failed reason => reason == Errno.interrupted

/-- A kernel is faithful to an account of what happens if every call shows there as what it did, and if the
backlog bounds the reports and interruptions that waits can still meet. -/
structure Kernel.Faithful (k : Kernel σ) (history : σ → History) : Prop where
  fork_ok {plan : LaunchPlan} {pid : Pid} {s s' : σ} :
    k.fork plan s = (.ok pid, s') → Passage (history s) [.forked plan pid] (history s')
  fork_error {plan : LaunchPlan} {reason : Errno} {s s' : σ} :
    k.fork plan s = (.error reason, s') → Passage (history s) [] (history s')
  poll {target : WaitTarget} {answer : WaitAnswer} {s s' : σ} :
    k.poll target s = (answer, s') → Passage (history s) [.polled target answer] (history s')
  poll_backlog {target : WaitTarget} {answer : WaitAnswer} {s s' : σ} :
    k.poll target s = (answer, s') → answer.isReport = true → k.backlog s' < k.backlog s
  await {pid : Pid} {answer : WaitAnswer} {s s' : σ} :
    k.await pid s = some (answer, s') → Passage (history s) [.awaited pid answer] (history s')
  await_backlog {pid : Pid} {answer : WaitAnswer} {s s' : σ} :
    k.await pid s = some (answer, s') → answer.isReport = true → k.backlog s' < k.backlog s
  kill (pid : Pid) (signal : StopSignal) (s : σ) :
    Passage (history s) [.signalled pid signal] (history (k.kill pid signal s).2)
  sleep (milliseconds : Nat) (s : σ) : Passage (history s) [] (history (k.sleep milliseconds s))
  toggles (s : σ) : Passage (history s) [.counted (k.toggles s).1] (history (k.toggles s).2)
  changeDirectory_ok {path : Text.Bytes} {s s' : σ} :
    k.changeDirectory path s = (.ok (), s') → Passage (history s) [.moved path] (history s')
  changeDirectory_error {path : Text.Bytes} {reason : Errno} {s s' : σ} :
    k.changeDirectory path s = (.error reason, s') → Passage (history s) [] (history s')
  read {limit : Nat} {result : Except Errno Text.Bytes} {s s' : σ} :
    k.read limit s = some (result, s') → Passage (history s) [] (history s')
  write (stream : Stream) (text : String) (s : σ) :
    Passage (history s) [.wrote stream text] (history (k.write stream text s))
  note (n : Diagnostics.Note) (s : σ) : Passage (history s) [] (history (k.note n s))
  listen (filter : Diagnostics.Filter) (s : σ) : Passage (history s) [] (history (k.listen filter s))
  arm (s : σ) : Passage (history s) [] (history (k.arm s))

/-- Nothing survives the signal that kills: a wait for a child that was sent it, or has ended, or is not
there, comes back. -/
def Kernel.IsDeadly (k : Kernel σ) (history : σ → History) : Prop :=
  ∀ pid s, (history s).IsDoomed pid → (k.await pid s).isSome = true

/-! ### Questions after one child -/

/-- What the shell makes of an ending. -/
def Ending.verdict (how : Ending) : Except ProcessFailure Termination :=
  if how.isNamed then .ok how.status else .error (.wait Errno.invalid)

/-- What ends a wait for a child, and what the shell makes of it: the child has ended and is handed over, or
there is no such child. -/
inductive Settled (pid : Pid) : WaitAnswer → Except ProcessFailure Termination → Prop where
  | ended (how : Ending) : Settled pid (.changed pid how.word) how.verdict
  | gone : Settled pid (.failed Errno.noChild) (.error (.wait Errno.noChild))

/-- What the shell makes of the answer when it asks after a child without waiting. -/
inductive Understood (pid : Pid) :
    WaitAnswer → Except ProcessFailure (Option Termination) → Prop where
  | running : Understood pid .quiet (.ok none)
  | interrupted : Understood pid (.failed Errno.interrupted) (.ok none)
  | settled {answer : WaitAnswer} {result : Except ProcessFailure Termination} :
      Settled pid answer result → Understood pid answer (result.map some)

theorem Ending.verdict_of_isNamed {how : Ending} (named : how.isNamed = true) :
    how.verdict = .ok how.status := by
  simp [verdict, named]

theorem Ending.verdict_of_not_isNamed {how : Ending} (nameless : how.isNamed = false) :
    how.verdict = .error (.wait Errno.invalid) := by
  simp [verdict, nameless]

namespace Understood

variable {pid : Pid} {answer : WaitAnswer}

/-- A child is not taken to have ended if it is still running, or if the question was interrupted. -/
theorem eq_of_ok_none (understood : Understood pid answer (.ok none)) :
    answer = .quiet ∨ answer = .failed Errno.interrupted := by
  generalize read : Except.ok none = reading at understood
  cases understood with
  | running => exact .inl rfl
  | interrupted => exact .inr rfl
  | @settled _ result settled => cases result <;> simp [Except.map] at read

/-- An answer by which a child has not ended hands over none. -/
theorem collects_of_ok_none (understood : Understood pid answer (.ok none)) :
    answer.collects = none := by
  rcases understood.eq_of_ok_none with rfl | rfl <;> rfl

/-- An answer by which a child has ended hands it over with the word of an ending that has a name. -/
theorem eq_of_ok_some {status : Termination} (understood : Understood pid answer (.ok (some status))) :
    ∃ how : Ending, how.isNamed = true ∧ how.status = status ∧ answer = .changed pid how.word := by
  generalize read : Except.ok (some status) = reading at understood
  cases understood with
  | running => simp at read
  | interrupted => simp at read
  | settled settled =>
      cases settled with
      | gone => simp [Except.map] at read
      | ended how =>
          cases named : how.isNamed with
          | true =>
              rw [Ending.verdict_of_isNamed named] at read
              exact ⟨how, named, by simpa [Except.map, eq_comm] using read, rfl⟩
          | false =>
              rw [Ending.verdict_of_not_isNamed named] at read
              simp [Except.map] at read

/-- An answer that fails hands a child over with the word of an ending without a name, or there is none. -/
theorem eq_of_error {e : ProcessFailure} (understood : Understood pid answer (.error e)) :
    answer = .failed Errno.noChild ∨
      ∃ how : Ending, how.isNamed = false ∧ answer = .changed pid how.word := by
  generalize read : Except.error e = reading at understood
  cases understood with
  | running => simp at read
  | interrupted => simp at read
  | settled settled =>
      cases settled with
      | gone => exact .inl rfl
      | ended how =>
          cases named : how.isNamed with
          | true =>
              rw [Ending.verdict_of_isNamed named] at read
              simp [Except.map] at read
          | false => exact .inr ⟨how, named, rfl⟩

end Understood

/-- The calls of a wait that is interrupted so many times before it is answered. -/
def waits (pid : Pid) (interruptions : Nat) (answer : WaitAnswer) : List Event :=
  List.replicate interruptions (.awaited pid (.failed Errno.interrupted)) ++ [.awaited pid answer]

/-- An interruption neither makes nor collects a child. -/
theorem isPlain_of_mem_interruptions {pid : Pid} {interruptions : Nat} {event : Event}
    (member : event ∈ List.replicate interruptions (.awaited pid (.failed Errno.interrupted))) :
    event.IsPlain := by
  rw [List.eq_of_mem_replicate member]
  exact ⟨rfl, rfl⟩

theorem mem_waits {pid : Pid} {interruptions : Nat} {answer : WaitAnswer} {call : Event}
    (member : call ∈ waits pid interruptions answer) :
    call = .awaited pid (.failed Errno.interrupted) ∨ call = .awaited pid answer := by
  rcases List.mem_append.1 member with cut | last
  · exact .inl (List.eq_of_mem_replicate cut)
  · exact .inr (List.mem_singleton.1 last)

theorem makes_of_mem_waits {pid : Pid} {interrupted : Nat} {answer : WaitAnswer} {call : Event}
    (member : call ∈ waits pid interrupted answer) : call.makes = none := by
  rcases mem_waits member with rfl | rfl <;> rfl

/-- What the shell makes of an answer, an interruption being no answer. -/
def WaitAnswer.reading (answer : WaitAnswer) : Except ProcessFailure (Option Termination) :=
  match answer.termination with
  | .ok status => .ok status
  | .error reason => if reason = Errno.interrupted then .ok none else .error (.wait reason)

theorem pollFor_eq (k : Kernel σ) (pid : Pid) (s : σ) :
    pollFor k pid s = ((k.poll (.only pid) s).1.reading, (k.poll (.only pid) s).2) := by
  simp only [pollFor, WaitAnswer.reading]
  split <;> simp_all
  split <;> rfl

theorem waitWithin_succ (k : Kernel σ) (pid : Pid) (fuel : Nat) (s : σ) :
    waitWithin k pid (fuel + 1) s =
      match k.await pid s with
      | none => none
      | some (answer, s') =>
          match answer.reading with
          | .ok (some status) => some (.ok status, s')
          | .ok none => waitWithin k pid fuel s'
          | .error e => some (.error e, s') := by
  rw [waitWithin]
  cases k.await pid s with
  | none => rfl
  | some reached =>
      obtain ⟨answer, s'⟩ := reached
      simp only [WaitAnswer.reading]
      cases termination : answer.termination with
      | ok status => cases status <;> rfl
      | error reason => by_cases cut : reason = Errno.interrupted <;> simp [cut]

/-- What an answer fails by is a failure to wait. -/
theorem WaitAnswer.wait_of_reading {answer : WaitAnswer} {e : ProcessFailure}
    (read : answer.reading = .error e) : ∃ reason, e = .wait reason := by
  unfold WaitAnswer.reading at read
  split at read
  · cases read
  · split at read
    · cases read
    · exact ⟨_, (Except.error.inj read).symm⟩

/-- What a wait fails by is a failure to wait. -/
theorem wait_of_waitWithin {k : Kernel σ} {pid : Pid} {fuel : Nat} {e : ProcessFailure} {s s' : σ}
    (waited : waitWithin k pid fuel s = some (.error e, s')) : ∃ reason, e = .wait reason := by
  induction fuel generalizing s with
  | zero => cases waited
  | succ fuel ih =>
      rw [waitWithin_succ] at waited
      split at waited
      · cases waited
      · split at waited
        · cases waited
        · exact ih waited
        · next read =>
          obtain ⟨rfl, -⟩ := by simpa using waited
          exact WaitAnswer.wait_of_reading read

/-- The word of an ending is read as the ending's verdict. -/
theorem reading_changed_word (pid : Pid) (how : Ending) :
    (WaitAnswer.changed pid how.word).reading = how.verdict.map some := by
  have other : Errno.invalid ≠ Errno.interrupted := by decide
  cases named : how.isNamed <;>
    simp [WaitAnswer.reading, WaitAnswer.termination, Ending.decode_word, Ending.verdict, named, other,
      Except.map]

/-- A fitting answer about one child is of one of four kinds. -/
theorem WaitAnswer.Fits.cases_only {h : History} {pid : Pid} {answer : WaitAnswer}
    (fits : answer.Fits h (.only pid)) :
    answer = .quiet ∨ answer = .failed Errno.interrupted ∨
      (∃ how : Ending, answer = .changed pid how.word) ∨
      answer = .failed Errno.noChild ∧ pid ∉ h.numbers := by
  cases answer with
  | quiet => exact Or.inl rfl
  | changed other word =>
      obtain ⟨-, admitted, how, -, rfl⟩ := fits
      have same : pid = other := by simpa [WaitTarget.admits] using admitted
      exact Or.inr (Or.inr (Or.inl ⟨how, by rw [same]⟩))
  | failed reason =>
      rcases fits with rfl | ⟨rfl, absent⟩
      · exact Or.inr (Or.inl rfl)
      · refine Or.inr (Or.inr (Or.inr ⟨rfl, fun member => absent pid member ?_⟩))
        simp [WaitTarget.admits]

/-- A fitting answer about a child that is there is not that there is none. -/
theorem WaitAnswer.Fits.ne_noChild {h : History} {pid : Pid} {answer : WaitAnswer}
    (fits : answer.Fits h (.only pid)) (there : pid ∈ h.numbers) :
    answer ≠ .failed Errno.noChild := by
  rintro rfl
  rcases fits with same | ⟨-, absent⟩
  · simp [Errno.noChild, Errno.interrupted] at same
  · exact absent pid there (by simp [WaitTarget.admits])

/-- A fitting answer about one child is understood. -/
theorem WaitAnswer.Fits.understood {h : History} {pid : Pid} {answer : WaitAnswer}
    (fits : answer.Fits h (.only pid)) : Understood pid answer answer.reading := by
  rcases fits.cases_only with rfl | rfl | ⟨how, rfl⟩ | ⟨rfl, -⟩
  · exact .running
  · exact .interrupted
  · rw [reading_changed_word]
    exact .settled (.ended how)
  · exact .settled .gone

section Questions

variable {k : Kernel σ} {history : σ → History} {pid : Pid} {s s' : σ}

/-- Asking once after a child is one call, and its answer is understood. -/
theorem pollFor_passage (faithful : k.Faithful history)
    {result : Except ProcessFailure (Option Termination)}
    (asked : pollFor k pid s = (result, s')) :
    ∃ answer, Understood pid answer result ∧
      Passage (history s) [.polled (.only pid) answer] (history s') := by
  rw [pollFor_eq] at asked
  obtain ⟨rfl, rfl⟩ := Prod.mk.inj asked
  have passage := faithful.poll (Prod.eta (k.poll (.only pid) s)).symm
  obtain ⟨g, -, fits, -⟩ := passage.cons
  exact ⟨_, WaitAnswer.Fits.understood fits, passage⟩

theorem waitWithin_passage (faithful : k.Faithful history) {fuel : Nat}
    {result : Except ProcessFailure Termination}
    (waited : waitWithin k pid fuel s = some (result, s')) :
    ∃ interruptions answer, Settled pid answer result ∧
      Passage (history s) (waits pid interruptions answer) (history s') := by
  induction fuel generalizing s with
  | zero => simp [waitWithin] at waited
  | succ fuel ih =>
      rw [waitWithin_succ] at waited
      cases awaited : k.await pid s with
      | none => simp [awaited] at waited
      | some reached =>
          obtain ⟨answer, t⟩ := reached
          have passage := faithful.await awaited
          obtain ⟨g, -, ⟨loud, fits⟩, -⟩ := passage.cons
          simp only [awaited] at waited
          rcases WaitAnswer.Fits.cases_only fits with rfl | rfl | ⟨how, rfl⟩ | ⟨rfl, -⟩
          · exact absurd rfl loud
          · obtain ⟨interruptions, answer, settled, later⟩ := ih waited
            refine ⟨interruptions + 1, answer, settled, ?_⟩
            simpa [waits, List.replicate_succ] using passage.trans later
          · rw [reading_changed_word] at waited
            have reached : how.verdict = result ∧ t = s' := by
              cases verdict : how.verdict <;> simp_all [Except.map]
            obtain ⟨rfl, rfl⟩ := reached
            exact ⟨0, _, .ended how, passage⟩
          · obtain ⟨rfl, rfl⟩ := Prod.mk.inj (Option.some.inj waited)
            exact ⟨0, _, .gone, passage⟩

/-- A wait that comes back was interrupted some number of times and then settled. -/
theorem waitFor_passage (faithful : k.Faithful history)
    {result : Except ProcessFailure Termination} (waited : waitFor k pid s = some (result, s')) :
    ∃ interruptions answer, Settled pid answer result ∧
      Passage (history s) (waits pid interruptions answer) (history s') :=
  waitWithin_passage faithful waited

theorem waitWithin_isSome (faithful : k.Faithful history) (deadly : k.IsDeadly history) {fuel : Nat}
    (enough : k.backlog s < fuel) (doomed : (history s).IsDoomed pid) :
    (waitWithin k pid fuel s).isSome = true := by
  induction fuel generalizing s with
  | zero => omega
  | succ fuel ih =>
      rw [waitWithin_succ]
      obtain ⟨⟨answer, t⟩, awaited⟩ := Option.isSome_iff_exists.1 (deadly pid s doomed)
      have passage := faithful.await awaited
      obtain ⟨g, -, ⟨loud, fits⟩, -⟩ := passage.cons
      simp only [awaited]
      rcases WaitAnswer.Fits.cases_only fits with rfl | rfl | ⟨how, rfl⟩ | ⟨rfl, -⟩
      · exact absurd rfl loud
      · have fewer : k.backlog t < k.backlog s := faithful.await_backlog awaited rfl
        exact ih (by omega) (passage.isDoomed (by simp [Event.makes]) doomed)
      · rw [reading_changed_word]
        cases how.verdict <;> rfl
      · rfl

/-- A wait for a doomed child comes back. -/
theorem waitFor_isSome (faithful : k.Faithful history) (deadly : k.IsDeadly history)
    (doomed : (history s).IsDoomed pid) : (waitFor k pid s).isSome = true :=
  waitWithin_isSome faithful deadly (Nat.lt_succ_self _) doomed

/-- A wait for a child that is there hands it over. -/
theorem waitFor_passage_of_mem (faithful : k.Faithful history)
    {result : Except ProcessFailure Termination} (there : pid ∈ (history s).numbers)
    (waited : waitFor k pid s = some (result, s')) :
    ∃ interruptions, ∃ how : Ending, how.verdict = result ∧
      Passage (history s) (waits pid interruptions (.changed pid how.word)) (history s') := by
  obtain ⟨interruptions, answer, settled, passage⟩ := waitFor_passage faithful waited
  cases settled with
  | ended how => exact ⟨interruptions, how, rfl, passage⟩
  | gone =>
      obtain ⟨g, before, after⟩ := passage.split
      obtain ⟨g', between, ⟨-, fits⟩, -⟩ := after.cons
      have still : pid ∈ g'.numbers := by
        rw [between.numbers_eq_of_nil,
          before.numbers_eq_of_isPlain fun call => isPlain_of_mem_interruptions]
        exact there
      exact absurd rfl (WaitAnswer.Fits.ne_noChild fits still)

end Questions

end JobShell
