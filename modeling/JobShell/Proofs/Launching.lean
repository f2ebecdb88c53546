/-
Module: JobShell.Proofs.Launching
Purpose: What the launch of a program comes to on a faithful system.  Either no child is made, or one is,
  and then it is asked after once, in the background, or waited for until it has ended.
Main exports: Launching, attend, launch_of_granted, launch_passage, Passage.handedOver
-/
import JobShell.Proofs.Faithful

namespace JobShell

variable {σ : Type}

/-- The calls of a launch and its result.  In the background the answer to the one question about the new
child is never that there is none. -/
inductive Launching (c : Command) (foregroundOnly : Bool) :
    List Event → Except ProcessFailure Launch → Prop where
  | unplanned {e : ProcessFailure}
      (refusal : LaunchPlan.ofCommand c (runsInBackground c foregroundOnly) = .error e) :
      Launching c foregroundOnly [] (.error e)
  | unforked (reason : Errno) : Launching c foregroundOnly [] (.error (.fork reason))
  | background {plan : LaunchPlan} {pid : Pid} {answer : WaitAnswer}
      {result : Except ProcessFailure (Option Termination)}
      (honoured : runsInBackground c foregroundOnly = true)
      (planned : LaunchPlan.ofCommand c true = .ok plan)
      (understood : Understood pid answer result)
      (there : answer ≠ .failed Errno.noChild) :
      Launching c foregroundOnly [.forked plan pid, .polled (.only pid) answer]
        (result.map (.background pid))
  | foreground {plan : LaunchPlan} {pid : Pid} (interruptions : Nat) (how : Ending)
      (waited : runsInBackground c foregroundOnly = false)
      (planned : LaunchPlan.ofCommand c false = .ok plan) :
      Launching c foregroundOnly
        (.forked plan pid :: waits pid interruptions (.changed pid how.word))
        (how.verdict.map (.foreground pid))

/-- The child that is made first is the only one. -/
theorem eq_of_forked_mem {plan other : LaunchPlan} {pid number : Pid} {later : List Event}
    (made : .forked plan pid ∈ .forked other number :: later)
    (barren : ∀ call ∈ later, call.makes = none) : plan = other ∧ pid = number := by
  rcases List.mem_cons.1 made with same | inside
  · exact Event.forked.inj same
  · simpa [Event.makes] using barren _ inside

/-- A child is made by the plan for its command and for the mode that was read. -/
theorem Launching.planned {c : Command} {foregroundOnly : Bool} {calls : List Event}
    {outcome : Except ProcessFailure Launch} {plan : LaunchPlan} {pid : Pid}
    (launching : Launching c foregroundOnly calls outcome) (made : .forked plan pid ∈ calls) :
    LaunchPlan.ofCommand c (runsInBackground c foregroundOnly) = .ok plan := by
  cases launching with
  | unplanned => simp at made
  | unforked => simp at made
  | background honoured planned =>
      obtain ⟨rfl, rfl⟩ := eq_of_forked_mem made (by simp [Event.makes])
      rwa [honoured]
  | foreground interrupted how waited planned =>
      obtain ⟨rfl, rfl⟩ := eq_of_forked_mem made fun call => makes_of_mem_waits
      rwa [waited]

/-- A plan is one for a command that names a program. -/
theorem LaunchPlan.ofCommand_ok {c : Command} {background : Bool} {plan : LaunchPlan}
    (planned : LaunchPlan.ofCommand c background = .ok plan) :
    ∃ program others, c.argv = program :: others ∧
      plan =
        { argv := c.argv
          foreground := !background
          redirections := LaunchPlan.redirectionsOf c background } := by
  rw [LaunchPlan.ofCommand] at planned
  split at planned
  · cases planned
  · next something =>
    split at planned
    · cases planned
    · cases words : c.argv with
      | nil => simp [Command.isEmpty, words] at something
      | cons program others =>
          rw [← words]
          exact ⟨program, others, words, (Except.ok.inj planned).symm⟩

/-- A plan says in the foreground of which of the two it was made for. -/
theorem LaunchPlan.foreground_of_ofCommand {c : Command} {background : Bool} {plan : LaunchPlan}
    (planned : LaunchPlan.ofCommand c background = .ok plan) : plan.foreground = !background := by
  obtain ⟨_, _, _, rfl⟩ := LaunchPlan.ofCommand_ok planned
  rfl

/-! ### The course of a launch -/

/-- What follows on the making of a child: one question in the background, a wait in the foreground. -/
def attend (k : Kernel σ) (pid : Pid) (background : Bool) (s : σ) :
    Option (Except ProcessFailure Launch × σ) :=
  if background then some ((pollFor k pid s).1.map (.background pid), (pollFor k pid s).2)
  else (waitFor k pid s).map fun waited => (waited.1.map (.foreground pid), waited.2)

section

variable {k : Kernel σ} {c : Command} {foregroundOnly : Bool} {plan : LaunchPlan} {pid : Pid} {s t u : σ}
  {outcome : Except ProcessFailure Launch}

theorem launch_of_unplanned {e : ProcessFailure}
    (unplanned : LaunchPlan.ofCommand c (runsInBackground c foregroundOnly) = .error e) :
    launch k c foregroundOnly s = some (.error e, s) := by
  simp only [launch, unplanned]

theorem launch_of_refused {reason : Errno}
    (planned : LaunchPlan.ofCommand c (runsInBackground c foregroundOnly) = .ok plan)
    (refused : k.fork plan s = (.error reason, t)) :
    launch k c foregroundOnly s = some (.error (.fork reason), t) := by
  simp only [launch, planned, refused]

theorem launch_of_granted
    (planned : LaunchPlan.ofCommand c (runsInBackground c foregroundOnly) = .ok plan)
    (granted : k.fork plan s = (.ok pid, t)) :
    launch k c foregroundOnly s = attend k pid (runsInBackground c foregroundOnly) t := by
  simp only [launch, planned, granted, attend]
  split
  · rcases pollFor k pid t with ⟨_ | _, _⟩ <;> rfl
  · rcases waitFor k pid t with _ | ⟨_ | _, _⟩ <;> rfl

theorem attend_background (attended : attend k pid true t = some (outcome, u)) :
    ∃ result, pollFor k pid t = (result, u) ∧ result.map (.background pid) = outcome := by
  obtain ⟨rfl, rfl⟩ := Prod.mk.inj (Option.some.inj attended)
  exact ⟨_, rfl, rfl⟩

theorem attend_foreground (attended : attend k pid false t = some (outcome, u)) :
    ∃ result, waitFor k pid t = some (result, u) ∧ result.map (.foreground pid) = outcome := by
  obtain ⟨⟨result, reached⟩, waited, told⟩ := Option.map_eq_some_iff.1 attended
  obtain ⟨rfl, rfl⟩ := Prod.mk.inj told
  exact ⟨result, waited, rfl⟩

/-- Only a child in the foreground can hold the shell up. -/
theorem attend_eq_none {background : Bool} (stuck : attend k pid background t = none) :
    background = false ∧ waitFor k pid t = none := by
  cases background with
  | true => cases stuck
  | false => exact ⟨rfl, Option.map_eq_none_iff.1 stuck⟩

/-- A launch that never comes back has made its child for the foreground, and waits for it. -/
theorem launch_eq_none (stuck : launch k c foregroundOnly s = none) :
    runsInBackground c foregroundOnly = false ∧ ∃ plan pid t,
      LaunchPlan.ofCommand c (runsInBackground c foregroundOnly) = .ok plan ∧
        k.fork plan s = (.ok pid, t) ∧ waitFor k pid t = none := by
  cases planned : LaunchPlan.ofCommand c (runsInBackground c foregroundOnly) with
  | error e =>
      rw [launch_of_unplanned planned] at stuck
      cases stuck
  | ok plan =>
      rcases granted : k.fork plan s with ⟨reason | pid, t⟩
      · rw [launch_of_refused planned granted] at stuck
        cases stuck
      · rw [launch_of_granted planned granted] at stuck
        obtain ⟨foreground, never⟩ := attend_eq_none stuck
        exact ⟨foreground, plan, pid, t, rfl, granted, never⟩

end

/-! ### On a faithful system -/

section

variable {k : Kernel σ} {history : σ → History} {s s' : σ}

/-- A child that has just been made is one of the children. -/
theorem mem_numbers_of_fork (faithful : k.Faithful history) {plan : LaunchPlan} {pid : Pid}
    (forked : k.fork plan s = (.ok pid, s')) : pid ∈ (history s').numbers := by
  rw [History.numbers, (faithful.fork_ok forked).children_eq]
  simp [History.childrenAfter]

theorem launch_passage (faithful : k.Faithful history) {c : Command} {foregroundOnly : Bool}
    {result : Except ProcessFailure Launch}
    (launched : launch k c foregroundOnly s = some (result, s')) :
    ∃ calls, Launching c foregroundOnly calls result ∧ Passage (history s) calls (history s') := by
  cases planned : LaunchPlan.ofCommand c (runsInBackground c foregroundOnly) with
  | error e =>
      rw [launch_of_unplanned planned] at launched
      obtain ⟨rfl, rfl⟩ := Prod.mk.inj (Option.some.inj launched)
      exact ⟨[], .unplanned planned, Passage.refl _⟩
  | ok plan =>
      rcases forked : k.fork plan s with ⟨reason | pid, made⟩
      · rw [launch_of_refused planned forked] at launched
        obtain ⟨rfl, rfl⟩ := Prod.mk.inj (Option.some.inj launched)
        exact ⟨[], .unforked _, faithful.fork_error forked⟩
      · have there := mem_numbers_of_fork faithful forked
        have making := faithful.fork_ok forked
        rw [launch_of_granted planned forked] at launched
        cases honoured : runsInBackground c foregroundOnly with
        | true =>
            rw [honoured] at planned launched
            obtain ⟨outcome, asked, rfl⟩ := attend_background launched
            obtain ⟨answer, understood, asking⟩ := pollFor_passage faithful asked
            have known : answer ≠ .failed Errno.noChild := by
              obtain ⟨g, between, fits, -⟩ := asking.cons
              exact WaitAnswer.Fits.ne_noChild fits (by rw [between.numbers_eq_of_nil]; exact there)
            exact ⟨_, .background honoured planned understood known, making.trans asking⟩
        | false =>
            rw [honoured] at planned launched
            obtain ⟨outcome, waited, rfl⟩ := attend_foreground launched
            obtain ⟨interruptions, how, rfl, waiting⟩ := waitFor_passage_of_mem faithful there waited
            exact ⟨_, .foreground interruptions how honoured planned, making.trans waiting⟩

/-- A child that is made, waited for and handed over has ended in between in the way that the word tells, and
is not there any more. -/
theorem Passage.handedOver {h h' : History} {seen : UInt64} {plan : LaunchPlan} {pid : Pid}
    {interruptions : Nat} {how : Ending} {told events : List Event}
    (passage : Passage h
      (.counted seen :: .forked plan pid :: waits pid interruptions (.changed pid how.word) ++ told) h')
    (barren : ∀ call ∈ told, call.makes = none) (happened : h' = h ++ events) :
    [.counted seen, .forked plan pid, .ended pid how, .awaited pid (.changed pid how.word)].Sublist
        events ∧ pid ∉ h'.numbers := by
  obtain ⟨g, making, telling⟩ := passage.split
  obtain ⟨_, ⟨first, rfl, -, -⟩, -, counted⟩ := Passage.cons making
  obtain ⟨_, ⟨second, rfl, -, -⟩, -, forked⟩ := counted.cons
  obtain ⟨_, ⟨third, rfl, -, -⟩, awaited⟩ := forked.split
  obtain ⟨_, ⟨fourth, rfl, -, -⟩, ⟨-, -, -, ending, known, same⟩, last⟩ := awaited.cons
  obtain rfl := Ending.word_injective same
  have fate : History.fate (h ++ first ++ [.counted seen] ++ second ++ .forked plan pid :: (third ++ fourth))
      pid = some how := by simpa using known
  have ended := History.mem_of_fate_of_forked fate
  have rest := last.trans telling
  refine ⟨?_, rest.not_mem (by simpa using fun call member => by simp [barren call member])
    (History.not_mem_numbers_of_collects rfl)⟩
  obtain ⟨fifth, rfl, -, -⟩ := rest
  have parts : events = first ++ .counted seen :: (second ++ .forked plan pid ::
      (third ++ fourth ++ .awaited pid (.changed pid how.word) :: fifth)) := by
    simpa using happened.symm
  have waited : [.ended pid how, .awaited pid (.changed pid how.word)].Sublist
      (third ++ fourth ++ .awaited pid (.changed pid how.word) :: fifth) :=
    (List.singleton_sublist.2 ended).append ((List.nil_sublist fifth).cons_cons _)
  rw [parts]
  exact List.sublist_append_of_sublist_right
    ((List.sublist_append_of_sublist_right (waited.cons_cons _)).cons_cons _)

end

end JobShell
