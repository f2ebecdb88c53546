/-
Module: JobShell.Proofs.Collecting
Purpose: What a sweep and what a stop come to on a faithful system: which calls they make, which children
  they leave, and to whom they send signals.
Main exports: Swept, Round, Rounds, Killing, Stopped, sweep_passage, stopAll_passage, stopAll_isSome,
  Swept.not_mem_numbers, Stopped.not_mem_numbers, Stopped.pairwise_spares
-/
import JobShell.Collect
import JobShell.Proofs.Faithful

namespace JobShell

variable {σ : Type}

/-- The calls of a sweep, and the children that it returns.  It ends in silence, for want of children, or by
a child whose ending it cannot read: that child is collected but not returned. -/
inductive Swept : List Event → List Collected → Prop where
  | quiet : Swept [.polled .any .quiet] []
  | alone : Swept [.polled .any (.failed Errno.noChild)] []
  | unreadable (pid : Pid) (how : Ending) (nameless : how.isNamed = false) :
      Swept [.polled .any (.changed pid how.word)] []
  | interrupted {calls : List Event} {collected : List Collected} (later : Swept calls collected) :
      Swept (.polled .any (.failed Errno.interrupted) :: calls) collected
  | returned {calls : List Event} {others : List Collected} (pid : Pid) (how : Ending)
      (named : how.isNamed = true) (later : Swept calls others) :
      Swept (.polled .any (.changed pid how.word) :: calls) (⟨pid, how.status⟩ :: others)

/-- The calls of asking once after each of some children, and which of them are left. -/
inductive Round : List Pid → List Event → List Pid → Prop where
  | done : Round [] [] []
  | kept {pid : Pid} {rest left : List Pid} {answer : WaitAnswer} {calls : List Event}
      (understood : Understood pid answer (.ok none)) (others : Round rest calls left) :
      Round (pid :: rest) (.polled (.only pid) answer :: calls) (pid :: left)
  | dropped {pid : Pid} {rest left : List Pid} {answer : WaitAnswer}
      {result : Except ProcessFailure Termination} {calls : List Event}
      (settled : Settled pid answer result) (others : Round rest calls left) :
      Round (pid :: rest) (.polled (.only pid) answer :: calls) left

/-- The calls of asking round after round, and which children are left. -/
inductive Rounds : List Pid → List Event → List Pid → Prop where
  | done (pids : List Pid) : Rounds pids [] pids
  | more {pids pending left : List Pid} {calls later : List Event} (round : Round pids calls pending)
      (others : Rounds pending later left) : Rounds pids (calls ++ later) left

/-- The calls of killing children and waiting for each of them. -/
inductive Killing : List Pid → List Event → Prop where
  | done : Killing [] []
  | killed {pid : Pid} {rest : List Pid} {answer : WaitAnswer}
      {result : Except ProcessFailure Termination} {calls : List Event} (interruptions : Nat)
      (settled : Settled pid answer result) (others : Killing rest calls) :
      Killing (pid :: rest) (.signalled pid .kill :: waits pid interruptions answer ++ calls)

/-- The calls of asking children to end, one after the other. -/
def askings (pids : List Pid) : List Event :=
  pids.map fun pid => .signalled pid .terminate

/-- The calls of stopping children. -/
inductive Stopped (pids : List Pid) : List Event → Prop where
  | mk {left : List Pid} {rounds killing : List Event} (asked : Rounds pids rounds left)
      (killed : Killing left killing) : Stopped pids (askings pids ++ (rounds ++ killing))

/-! ### The calls that are made -/

section Calls

variable {k : Kernel σ} {history : σ → History} {s s' : σ}

theorem sweepWithin_passage (faithful : k.Faithful history) {fuel : Nat} {collected : List Collected}
    (enough : k.backlog s < fuel) (swept : sweepWithin k fuel s = (collected, s')) :
    ∃ calls, Swept calls collected ∧ Passage (history s) calls (history s') := by
  induction fuel generalizing s collected with
  | zero => omega
  | succ fuel ih =>
      rw [sweepWithin] at swept
      rcases polled : k.poll .any s with ⟨answer, t⟩
      have passage := faithful.poll polled
      have fewer := faithful.poll_backlog polled
      obtain ⟨g, -, fits, -⟩ := passage.cons
      simp only [polled] at swept
      cases answer with
      | quiet =>
          obtain ⟨rfl, rfl⟩ := Prod.mk.inj swept
          exact ⟨_, .quiet, passage⟩
      | failed reason =>
          rcases fits with rfl | ⟨rfl, -⟩
          · -- Every report and every interruption lowers the backlog, so the fuel lasts.
            have below : k.backlog t < fuel := by
              have := fewer rfl
              omega
            simp only [Errno.noChild, Errno.interrupted, Errno.mk.injEq, Int.reduceEq, if_true,
              if_false] at swept
            obtain ⟨calls, later, rest⟩ := ih below swept
            exact ⟨_, .interrupted later, passage.trans rest⟩
          · simp only [if_true] at swept
            obtain ⟨rfl, rfl⟩ := Prod.mk.inj swept
            exact ⟨_, .alone, passage⟩
      | changed pid word =>
          obtain ⟨-, -, how, -, rfl⟩ := fits
          cases named : how.isNamed with
          | false =>
              simp only [how.decode_word_of_not_isNamed named] at swept
              obtain ⟨rfl, rfl⟩ := Prod.mk.inj swept
              exact ⟨_, .unreadable pid how named, by simpa using passage.trans (faithful.note _ t)⟩
          | true =>
              simp only [how.decode_word_of_isNamed named] at swept
              obtain ⟨rfl, same⟩ := Prod.mk.inj swept
              have below : k.backlog t < fuel := by
                have := fewer rfl
                omega
              obtain ⟨calls, later, rest⟩ := ih below (Prod.ext rfl same)
              exact ⟨_, .returned pid how named later, passage.trans rest⟩

/-- A sweep asks after any child until there is nothing more to hear. -/
theorem sweep_passage (faithful : k.Faithful history) {collected : List Collected}
    (swept : sweep k s = (collected, s')) :
    ∃ calls, Swept calls collected ∧ Passage (history s) calls (history s') :=
  sweepWithin_passage faithful (Nat.lt_succ_self _) swept

/-- Sending a signal is one call, whatever comes of it. -/
theorem send_passage (faithful : k.Faithful history) (pid : Pid) (signal : StopSignal) (s : σ) :
    Passage (history s) [.signalled pid signal] (history (send k pid signal s)) := by
  have passage := faithful.kill pid signal s
  rcases sent : k.kill pid signal s with ⟨_ | _, t⟩ <;> simp only [sent] at passage
  · simp only [send, sent]
    split
    · exact passage
    · simpa using passage.trans (faithful.note _ t)
  · simpa only [send, sent] using passage

theorem askings_passage (faithful : k.Faithful history) (pids : List Pid) (s : σ) :
    Passage (history s) (askings pids)
      (history (pids.foldl (fun s pid => send k pid .terminate s) s)) := by
  induction pids generalizing s with
  | nil => exact .refl _
  | cons pid rest ih => exact (send_passage faithful pid .terminate s).trans (ih _)

theorem pollEach_passage (faithful : k.Faithful history) {pids left : List Pid}
    {ended : List Collected} (asked : pollEach k pids s = (ended, left, s')) :
    ∃ calls, Round pids calls left ∧ Passage (history s) calls (history s') := by
  induction pids generalizing s s' ended left with
  | nil =>
      simp only [pollEach, Prod.mk.injEq] at asked
      obtain ⟨-, rfl, rfl⟩ := asked
      exact ⟨[], .done, .refl _⟩
  | cons pid rest ih =>
      rcases first : pollFor k pid s with ⟨result, t⟩
      rcases others : pollEach k rest t with ⟨later, pending, u⟩
      obtain ⟨answer, understood, passage⟩ := pollFor_passage faithful first
      obtain ⟨calls, round, remaining⟩ := ih others
      simp only [pollEach, first, others] at asked
      cases understood with
      | running =>
          obtain ⟨-, rfl, rfl⟩ := by simpa only [Prod.mk.injEq] using asked
          exact ⟨_, .kept .running round, passage.trans remaining⟩
      | interrupted =>
          obtain ⟨-, rfl, rfl⟩ := by simpa only [Prod.mk.injEq] using asked
          exact ⟨_, .kept .interrupted round, passage.trans remaining⟩
      | @settled _ outcome settled =>
          have reached : pending = left ∧ u = s' := by
            cases outcome <;> simp_all [Except.map]
          obtain ⟨rfl, rfl⟩ := reached
          exact ⟨_, .dropped settled round, passage.trans remaining⟩

theorem pollUntil_passage (faithful : k.Faithful history) {deadline rounds : Nat}
    {pids left : List Pid} {ended : List Collected}
    (asked : pollUntil k deadline rounds pids s = (ended, left, s')) :
    ∃ calls, Rounds pids calls left ∧ Passage (history s) calls (history s') := by
  induction rounds generalizing pids s s' ended left with
  | zero =>
      simp only [pollUntil, Prod.mk.injEq] at asked
      obtain ⟨-, rfl, rfl⟩ := asked
      exact ⟨[], .done pids, .refl _⟩
  | succ rounds ih =>
      rcases each : pollEach k pids s with ⟨first, pending, t⟩
      obtain ⟨calls, round, passage⟩ := pollEach_passage faithful each
      simp only [pollUntil, each] at asked
      split at asked
      · obtain ⟨-, rfl, rfl⟩ := by simpa only [Prod.mk.injEq] using asked
        exact ⟨_, .more round (.done _), by simpa using passage⟩
      · rcases others : pollUntil k deadline rounds pending (k.sleep pollInterval t)
          with ⟨later, rest, u⟩
        simp only [others, Prod.mk.injEq] at asked
        obtain ⟨-, rfl, rfl⟩ := asked
        obtain ⟨calls', rounds', passage'⟩ := ih others
        have slept := faithful.sleep pollInterval t
        exact ⟨_, .more round rounds', by simpa using (passage.trans slept).trans passage'⟩

theorem killEach_passage (faithful : k.Faithful history) {pids : List Pid} {ended : List Collected}
    (killed : killEach k pids s = some (ended, s')) :
    ∃ calls, Killing pids calls ∧ Passage (history s) calls (history s') := by
  induction pids generalizing s s' ended with
  | nil =>
      simp only [killEach, Option.some.injEq, Prod.mk.injEq] at killed
      obtain ⟨-, rfl⟩ := killed
      exact ⟨[], .done, .refl _⟩
  | cons pid rest ih =>
      have noted := faithful.note (collectWarning s!"pid {pid} ignored SIGTERM, killing it") s
      have sent := noted.trans (send_passage faithful pid .kill _)
      rcases waited : waitFor k pid (send k pid .kill
          (k.note (collectWarning s!"pid {pid} ignored SIGTERM, killing it") s)) with _ | ⟨answer, t⟩
      · simp only [killEach, waited, reduceCtorEq] at killed
      · rcases others : killEach k rest t with _ | ⟨later, u⟩
        · simp only [killEach, waited, others, reduceCtorEq] at killed
        · obtain ⟨interruptions, answer', settled, waiting⟩ := waitFor_passage faithful waited
          obtain ⟨calls, killing, remaining⟩ := ih others
          have reached : u = s' := by
            simp only [killEach, waited, others] at killed
            cases answer <;> simp_all
          subst reached
          exact ⟨_, .killed interruptions settled killing, (sent.trans waiting).trans remaining⟩

/-- A stop asks each child to end, asks after them in rounds, and kills those that are left. -/
theorem stopAll_passage (faithful : k.Faithful history) {pids : List Pid} {grace : Nat}
    {ended : List Collected} (stopped : stopAll k pids grace s = some (ended, s')) :
    ∃ calls, Stopped pids calls ∧ Passage (history s) calls (history s') := by
  have asking := askings_passage faithful pids s
  generalize started : pids.foldl (fun s pid => send k pid .terminate s) s = u at asking
  rcases asked : pollUntil k (k.clock u + grace * 1000) (roundsWithin grace) pids u
    with ⟨first, left, t⟩
  obtain ⟨rounds, inRounds, polling⟩ := pollUntil_passage faithful asked
  rcases last : killEach k left t with _ | ⟨killed, v⟩
  · simp only [stopAll, started, asked, last, reduceCtorEq] at stopped
  · obtain ⟨killing, inTurn, waiting⟩ := killEach_passage faithful last
    simp only [stopAll, started, asked, last, Option.some.injEq, Prod.mk.injEq] at stopped
    obtain ⟨-, rfl⟩ := stopped
    exact ⟨_, .mk inRounds inTurn, asking.trans (polling.trans waiting)⟩

/-- Killing comes to an end where nothing survives it. -/
theorem killEach_isSome (faithful : k.Faithful history) (deadly : k.IsDeadly history)
    (pids : List Pid) (s : σ) : (killEach k pids s).isSome = true := by
  induction pids generalizing s with
  | nil => rfl
  | cons pid rest ih =>
      rw [killEach]
      obtain ⟨g, -, -, after⟩ := (send_passage faithful pid .kill
        (k.note (collectWarning s!"pid {pid} ignored SIGTERM, killing it") s)).cons
      have doomed := after.isDoomed (by simp) (History.isDoomed_of_signalled g pid)
      obtain ⟨⟨answer, t⟩, waited⟩ := Option.isSome_iff_exists.1 (waitFor_isSome faithful deadly doomed)
      obtain ⟨⟨others, u⟩, later⟩ := Option.isSome_iff_exists.1 (ih t)
      simp only [waited, later]
      cases answer <;> rfl

/-- A stop comes to an end where nothing survives the signal that kills. -/
theorem stopAll_isSome (faithful : k.Faithful history) (deadly : k.IsDeadly history)
    (pids : List Pid) (grace : Nat) (s : σ) : (stopAll k pids grace s).isSome = true := by
  simp only [stopAll]
  generalize pollUntil k _ _ pids _ = polled
  obtain ⟨ended, left, t⟩ := polled
  obtain ⟨⟨killed, u⟩, last⟩ := Option.isSome_iff_exists.1 (killEach_isSome faithful deadly left t)
  simp [last]

end Calls

/-! ### What they make and collect -/

/-- What settles a wait for a child hands over that child or none. -/
theorem Settled.collects {pid other : Pid} {answer : WaitAnswer}
    {result : Except ProcessFailure Termination} (settled : Settled pid answer result)
    (collects : answer.collects = some other) : other = pid := by
  cases settled with
  | ended how => simpa [WaitAnswer.collects, eq_comm] using collects
  | gone => simp [WaitAnswer.collects] at collects

/-- The one child that a wait can hand over is the one that is waited for. -/
theorem collects_of_mem_waits {pid other : Pid} {interruptions : Nat} {answer : WaitAnswer}
    {result : Except ProcessFailure Termination} {call : Event} (settled : Settled pid answer result)
    (member : call ∈ waits pid interruptions answer) (collects : call.collects = some other) :
    other = pid := by
  rcases mem_waits member with rfl | rfl
  · simp [Event.collects, WaitAnswer.collects] at collects
  · exact settled.collects collects

/-- Once a wait for a child is settled the child is not there any more. -/
theorem Settled.not_mem_numbers {g : History} {pid : Pid} {answer : WaitAnswer}
    {result : Except ProcessFailure Termination} {event : Event} (settled : Settled pid answer result)
    (asked : event = .polled (.only pid) answer ∨ event = .awaited pid answer)
    (fits : answer.Fits g (.only pid)) : pid ∉ (g ++ [event]).numbers := by
  cases settled with
  | ended how =>
      refine History.not_mem_numbers_of_collects ?_
      rcases asked with rfl | rfl <;> rfl
  | gone =>
      intro there
      have before : pid ∈ g.numbers := by
        refine History.mem_numbers_of_mem_concat ?_ there
        rcases asked with rfl | rfl <;> simp [Event.makes]
      exact fits.ne_noChild before rfl

/-- The child that a sweep returns by an event. -/
def Event.returned : Event → Option Collected
  | polled .any (.changed pid word) =>
      match WaitWord.decode word with
      | .ok (some status) => some ⟨pid, status⟩
      | _ => none
  | _ => none

/-- The number of the child that a sweep collects by an event without returning it. -/
def Event.dropped : Event → Option Pid
  | polled .any (.changed pid word) =>
      match WaitWord.decode word with
      | .error _ => some pid
      | _ => none
  | _ => none

namespace Swept

variable {calls : List Event} {collected : List Collected}

/-- A sweep only asks after any child. -/
theorem mem (swept : Swept calls collected) {call : Event} (member : call ∈ calls) :
    ∃ answer, call = .polled .any answer := by
  induction swept with
  | interrupted later ih =>
      rcases List.mem_cons.1 member with rfl | inside
      · exact ⟨_, rfl⟩
      · exact ih inside
  | returned pid how named later ih =>
      rcases List.mem_cons.1 member with rfl | inside
      · exact ⟨_, rfl⟩
      · exact ih inside
  | _ => exact ⟨_, List.mem_singleton.1 member⟩

/-- A sweep makes no child. -/
theorem makes (swept : Swept calls collected) : ∀ call ∈ calls, call.makes = none := by
  intro call member
  obtain ⟨_, rfl⟩ := swept.mem member
  rfl

/-- A sweep that drops no child leaves none that had ended when it began. -/
theorem not_mem_numbers {h h' : History} {pid : Pid} {how : Ending} (swept : Swept calls collected)
    (passage : Passage h calls h') (whole : calls.filterMap Event.dropped = [])
    (ended : h.fate pid = some how) : pid ∉ h'.numbers := by
  induction swept generalizing h with
  | quiet =>
      -- The child had ended before the last question, which would have handed it over.
      obtain ⟨g, before, ⟨-, running⟩, after⟩ := passage.cons
      intro there
      have known := before.fate_eq_of_some (by simp) ended
      rw [after.numbers_eq_of_nil] at there
      have still : pid ∈ g.numbers := History.mem_numbers_of_mem_concat (by simp [Event.makes]) there
      simp [running pid still rfl] at known
  | alone =>
      obtain ⟨g, -, fits, after⟩ := passage.cons
      intro there
      rw [after.numbers_eq_of_nil] at there
      have still : pid ∈ g.numbers := History.mem_numbers_of_mem_concat (by simp [Event.makes]) there
      rcases fits with same | ⟨-, nobody⟩
      · simp [Errno.noChild, Errno.interrupted] at same
      · exact nobody pid still rfl
  | unreadable other ending nameless =>
      simp [Event.dropped, ending.decode_word_of_not_isNamed nameless] at whole
  | interrupted later ih =>
      obtain ⟨g, before, fits, after⟩ := passage.cons
      have known := before.fate_eq_of_some (by simp) ended
      refine ih after (by simpa [Event.dropped] using whole) ?_
      exact History.fate_concat_of_some fits (by simp [Event.makes]) known
  | returned other ending named later ih =>
      obtain ⟨g, before, fits, after⟩ := passage.cons
      have known := before.fate_eq_of_some (by simp) ended
      refine ih after ?_ (History.fate_concat_of_some fits (by simp [Event.makes]) known)
      simpa [Event.dropped, ending.decode_word_of_isNamed named] using whole

end Swept

namespace Round

variable {pids left : List Pid} {calls : List Event}

/-- Those that are left were asked after. -/
theorem sublist (round : Round pids calls left) : left.Sublist pids := by
  induction round with
  | done => exact .slnil
  | kept _ _ ih => exact ih.cons_cons _
  | dropped _ _ ih => exact ih.cons _

/-- Only questions are asked, and only after these children. -/
theorem polled (round : Round pids calls left) {call : Event} (member : call ∈ calls) :
    ∃ pid answer, call = .polled (.only pid) answer ∧
      ∀ other, answer.collects = some other → other ∈ pids := by
  induction round with
  | done => simp at member
  | @kept pid rest left answer calls understood others ih =>
      rcases List.mem_cons.1 member with rfl | later
      · exact ⟨pid, answer, rfl, by simp [understood.collects_of_ok_none]⟩
      · obtain ⟨asked, told, same, inside⟩ := ih later
        exact ⟨asked, told, same, fun other collects => List.mem_cons_of_mem _ (inside other collects)⟩
  | @dropped pid rest left answer result calls settled others ih =>
      rcases List.mem_cons.1 member with rfl | later
      · exact ⟨pid, answer, rfl, fun other collects => by simp [settled.collects collects]⟩
      · obtain ⟨asked, told, same, inside⟩ := ih later
        exact ⟨asked, told, same, fun other collects => List.mem_cons_of_mem _ (inside other collects)⟩

/-- Whoever is left has not been collected, unless the number was asked after twice. -/
theorem not_collected (round : Round pids calls left) {pid : Pid} (once : pids.count pid ≤ 1)
    (still : pid ∈ left) : ∀ call ∈ calls, call.collects ≠ some pid := by
  induction round with
  | done => simp
  | @kept asked rest left answer calls understood others ih =>
      intro call member collects
      rcases List.mem_cons.1 member with rfl | later
      · simp [Event.collects, understood.collects_of_ok_none] at collects
      · by_cases same : asked = pid
        · subst same
          have absent : asked ∉ rest := List.count_eq_zero.1 (by simpa using once)
          obtain ⟨_, _, rfl, inside⟩ := others.polled later
          exact absent (inside asked collects)
        · rw [List.count_cons_of_ne same] at once
          exact ih once ((List.mem_cons.1 still).resolve_left (Ne.symm same)) call later collects
  | @dropped asked rest left answer result calls settled others ih =>
      intro call member collects
      have inside : pid ∈ rest := others.sublist.subset still
      have different : asked ≠ pid := by
        rintro rfl
        have absent : asked ∉ rest := List.count_eq_zero.1 (by simpa using once)
        exact absent inside
      rw [List.count_cons_of_ne different] at once
      rcases List.mem_cons.1 member with rfl | later
      · exact different (settled.collects collects).symm
      · exact ih once still call later collects

end Round

/-- Whoever was asked after and is not left is not there any more. -/
theorem Round.not_mem_numbers {pids left : List Pid} {calls : List Event} {h h' : History}
    (round : Round pids calls left) (passage : Passage h calls h') {pid : Pid} (asked : pid ∈ pids)
    (settled : pid ∉ left) : pid ∉ h'.numbers := by
  induction round generalizing h with
  | done => simp at asked
  | @kept first rest left answer calls understood others ih =>
      obtain ⟨g, -, -, after⟩ := passage.cons
      rw [List.mem_cons, not_or] at settled
      rcases List.mem_cons.1 asked with same | later
      · exact absurd same settled.1
      · exact ih after later settled.2
  | @dropped first rest left answer result calls done others ih =>
      obtain ⟨g, -, fits, after⟩ := passage.cons
      rcases List.mem_cons.1 asked with rfl | later
      · refine after.not_mem (fun call member => ?_) (done.not_mem_numbers (.inl rfl) fits)
        obtain ⟨_, _, rfl, -⟩ := others.polled member
        simp [Event.makes]
      · exact ih after later settled

namespace Rounds

variable {pids left : List Pid} {calls : List Event}

theorem sublist (rounds : Rounds pids calls left) : left.Sublist pids := by
  induction rounds with
  | done => exact .refl _
  | more round _ ih => exact ih.trans round.sublist

theorem polled (rounds : Rounds pids calls left) {call : Event} (member : call ∈ calls) :
    ∃ pid answer, call = .polled (.only pid) answer ∧
      ∀ other, answer.collects = some other → other ∈ pids := by
  induction rounds with
  | done => simp at member
  | more round _ ih =>
      rcases List.mem_append.1 member with now | later
      · exact round.polled now
      · obtain ⟨pid, answer, same, inside⟩ := ih later
        exact ⟨pid, answer, same, fun other collects => round.sublist.subset (inside other collects)⟩

theorem not_collected (rounds : Rounds pids calls left) {pid : Pid} (once : pids.count pid ≤ 1)
    (still : pid ∈ left) : ∀ call ∈ calls, call.collects ≠ some pid := by
  induction rounds with
  | done => simp
  | more round others ih =>
      intro call member
      rcases List.mem_append.1 member with now | later
      · exact round.not_collected once (others.sublist.subset still) call now
      · exact ih (Nat.le_trans (round.sublist.count_le pid) once) still call later

theorem not_mem_numbers {h h' : History} (rounds : Rounds pids calls left)
    (passage : Passage h calls h') {pid : Pid} (asked : pid ∈ pids) (settled : pid ∉ left) :
    pid ∉ h'.numbers := by
  induction rounds generalizing h with
  | done => exact absurd asked settled
  | @more pids pending left calls later round others ih =>
      obtain ⟨g, first, after⟩ := passage.split
      by_cases still : pid ∈ pending
      · exact ih after still settled
      · refine after.not_mem (fun call member => ?_) (round.not_mem_numbers first asked still)
        obtain ⟨_, _, rfl, -⟩ := others.polled member
        simp [Event.makes]

end Rounds

/-- Whether the second of two events is not a signal to the child that the first one hands over, if that is
the child of a given number. -/
def Event.Spares (pid : Pid) (first second : Event) : Prop :=
  first.collects = some pid → ∀ signal, second ≠ .signalled pid signal

namespace Killing

variable {pids : List Pid} {calls : List Event}

/-- Only these children are killed, waited for and handed over. -/
theorem mem (killing : Killing pids calls) {call : Event} (member : call ∈ calls) :
    ∃ pid ∈ pids, call = .signalled pid .kill ∨
      ∃ answer, call = .awaited pid answer ∧ ∀ other, answer.collects = some other → other = pid := by
  induction killing with
  | done => simp at member
  | @killed pid rest answer result calls interruptions settled others ih =>
      rw [List.cons_append, List.mem_cons, List.mem_append] at member
      rcases member with rfl | waited | later
      · exact ⟨pid, by simp, .inl rfl⟩
      · refine ⟨pid, by simp, .inr ?_⟩
        rcases mem_waits waited with rfl | rfl
        · exact ⟨_, rfl, by simp [WaitAnswer.collects]⟩
        · exact ⟨_, rfl, fun other collects => settled.collects collects⟩
      · obtain ⟨other, inside, kind⟩ := ih later
        exact ⟨other, List.mem_cons_of_mem _ inside, kind⟩

/-- A child that is killed once is not signalled after being collected. -/
theorem pairwise_spares (killing : Killing pids calls) {pid : Pid} (once : pids.count pid ≤ 1) :
    calls.Pairwise (Event.Spares pid) := by
  induction killing with
  | done => exact .nil
  | @killed first rest answer result calls interruptions settled others ih =>
      have onceLater : rest.count pid ≤ 1 := Nat.le_trans List.count_le_count_cons once
      rw [List.cons_append, List.pairwise_cons, List.pairwise_append]
      refine ⟨?_, ?_, ih onceLater, ?_⟩
      · intro call _ collects
        simp [Event.collects] at collects
      · refine List.pairwise_of_forall_mem_list fun one _ other member _ signal => ?_
        rcases mem_waits member with rfl | rfl <;> simp
      · rintro call waited last member collects signal rfl
        obtain rfl := collects_of_mem_waits settled waited collects
        have absent : pid ∉ rest := List.count_eq_zero.1 (by simpa using once)
        obtain ⟨killed, inside, same | ⟨_, same, -⟩⟩ := others.mem member
        · exact absent ((Event.signalled.inj same).1 ▸ inside)
        · simp at same

theorem not_mem_numbers {h h' : History} (killing : Killing pids calls)
    (passage : Passage h calls h') {pid : Pid} (killed : pid ∈ pids) : pid ∉ h'.numbers := by
  induction killing generalizing h with
  | done => simp at killed
  | @killed first rest answer result calls interruptions settled others ih =>
      obtain ⟨g, waited, after⟩ := passage.split
      rcases List.mem_cons.1 killed with rfl | later
      · have gone : pid ∉ g.numbers := by
          obtain ⟨g₁, -, -, waiting⟩ := waited.cons
          obtain ⟨g₂, -, last⟩ := waiting.split
          obtain ⟨g₃, -, ⟨-, fits⟩, ended⟩ := last.cons
          rw [ended.numbers_eq_of_nil]
          exact settled.not_mem_numbers (.inr rfl) fits
        refine after.not_mem (fun call member => ?_) gone
        obtain ⟨_, -, rfl | ⟨_, rfl, -⟩⟩ := others.mem member <;> simp [Event.makes]
      · exact ih after later

end Killing

/-- Asking a child to end collects nobody. -/
theorem collects_of_mem_askings {pids : List Pid} {call : Event} (member : call ∈ askings pids) :
    call.collects = none := by
  obtain ⟨_, -, rfl⟩ := List.mem_map.1 member
  rfl

namespace Stopped

variable {pids : List Pid} {calls : List Event} {h h' : History}

/-- Only these children are asked to end, asked after, killed, waited for and handed over. -/
theorem mem (stopped : Stopped pids calls) {call : Event} (member : call ∈ calls) :
    (∃ pid ∈ pids, ∃ signal, call = .signalled pid signal) ∨
      ∃ pid answer, (call = .polled (.only pid) answer ∨ call = .awaited pid answer) ∧
        ∀ other, answer.collects = some other → other ∈ pids := by
  cases stopped with
  | mk asked killed =>
      rw [List.mem_append, List.mem_append] at member
      rcases member with sent | polled | last
      · obtain ⟨pid, inside, rfl⟩ := List.mem_map.1 sent
        exact .inl ⟨pid, inside, _, rfl⟩
      · obtain ⟨pid, answer, rfl, inside⟩ := asked.polled polled
        exact .inr ⟨pid, answer, .inl rfl, inside⟩
      · obtain ⟨pid, inside, rfl | ⟨answer, rfl, same⟩⟩ := killed.mem last
        · exact .inl ⟨pid, asked.sublist.subset inside, _, rfl⟩
        · refine .inr ⟨pid, answer, .inr rfl, fun other collects => ?_⟩
          exact same other collects ▸ asked.sublist.subset inside

/-- Every signal goes to one of these children. -/
theorem signalled_mem (stopped : Stopped pids calls) {pid : Pid} {signal : StopSignal}
    (sent : .signalled pid signal ∈ calls) : pid ∈ pids := by
  rcases stopped.mem sent with ⟨other, inside, _, same⟩ | ⟨_, _, same | same, -⟩
  · exact (Event.signalled.inj same).1 ▸ inside
  · simp at same
  · simp at same

/-- Every one of these children is asked to end. -/
theorem terminate_mem (stopped : Stopped pids calls) {pid : Pid} (inside : pid ∈ pids) :
    .signalled pid .terminate ∈ calls := by
  cases stopped with
  | mk asked killed => exact List.mem_append_left _ (List.mem_map_of_mem inside)

/-- A stop makes no child. -/
theorem makes (stopped : Stopped pids calls) : ∀ call ∈ calls, call.makes = none := by
  intro call member
  rcases stopped.mem member with ⟨_, -, _, rfl⟩ | ⟨_, _, rfl | rfl, -⟩ <;> rfl

/-- Nobody is collected before everybody has been asked to end. -/
theorem pairwise_terminate (stopped : Stopped pids calls) :
    calls.Pairwise fun first second => ∀ pid, second = .signalled pid .terminate →
      first.collects = none := by
  cases stopped with
  | @mk left rounds killing asked killed =>
      rw [List.pairwise_append]
      refine ⟨?_, ?_, ?_⟩
      · refine List.pairwise_of_forall_mem_list fun first member second _ pid _ => ?_
        exact collects_of_mem_askings member
      · refine List.pairwise_of_forall_mem_list fun first _ second member pid same => ?_
        subst same
        rcases List.mem_append.1 member with polled | last
        · obtain ⟨_, _, same, -⟩ := asked.polled polled
          simp at same
        · obtain ⟨_, -, same | ⟨_, same, -⟩⟩ := killed.mem last <;> simp at same
      · intro first member second _ pid _
        exact collects_of_mem_askings member

/-- A child that is stopped once is not signalled after being collected. -/
theorem pairwise_spares (stopped : Stopped pids calls) {pid : Pid} (once : pids.count pid ≤ 1) :
    calls.Pairwise (Event.Spares pid) := by
  cases stopped with
  | @mk left rounds killing asked killed =>
      have onceLeft : left.count pid ≤ 1 := Nat.le_trans (asked.sublist.count_le pid) once
      rw [List.pairwise_append, List.pairwise_append]
      refine ⟨?_, ⟨?_, killed.pairwise_spares onceLeft, ?_⟩, ?_⟩
      · refine List.pairwise_of_forall_mem_list fun first member second _ collects => ?_
        simp [collects_of_mem_askings member] at collects
      · refine List.pairwise_of_forall_mem_list fun first _ second member _ signal => ?_
        obtain ⟨_, _, rfl, -⟩ := asked.polled member
        simp
      · rintro first polled second member collects signal rfl
        obtain ⟨other, inside, same | ⟨_, same, -⟩⟩ := killed.mem member
        · obtain ⟨rfl, -⟩ := Event.signalled.inj same
          exact asked.not_collected once inside first polled collects
        · simp at same
      · intro first member second _ collects
        simp [collects_of_mem_askings member] at collects

/-- None of the children is there any more. -/
theorem not_mem_numbers (stopped : Stopped pids calls) (passage : Passage h calls h') {pid : Pid}
    (inside : pid ∈ pids) : pid ∉ h'.numbers := by
  cases stopped with
  | @mk left rounds killing asked killed =>
      obtain ⟨g₁, -, rest⟩ := passage.split
      obtain ⟨g₂, polling, waiting⟩ := rest.split
      by_cases still : pid ∈ left
      · exact killed.not_mem_numbers waiting still
      · refine waiting.not_mem (fun call member => ?_) (asked.not_mem_numbers polling inside still)
        obtain ⟨_, -, rfl | ⟨_, rfl, -⟩⟩ := killed.mem member <;> simp [Event.makes]

end Stopped

end JobShell
