/-
Module: JobShell.Proofs.Sweeping
Purpose: A sweep over any stream of answers.  It hears the answers up to the first one that ends it, and that
  one, and no more; it returns the terminations among them in their order; and where only so many events are to
  be delivered it asks once more than that at most.  Nothing is assumed of the words or of the numbers in the
  answers.
Main exports: WaitAnswer.endsSweep, Kernel.Answers, Kernel.BoundsReports, Kernel.Delivers, Tape, sweep_stream
-/
import JobShell.Proofs.Stopping

namespace JobShell

variable {σ : Type}

/-! ### Answers -/

namespace WaitAnswer

/-- Whether a sweep stops at an answer: at silence and at a failure, be it that the word cannot be read, but not
where the question was only cut short. -/
def endsSweep : WaitAnswer → Bool
  | quiet => true
  | changed _ word => !(WaitWord.decode word).isOk
  | failed reason => reason != Errno.interrupted

/-- What a sweep complains of when it stops at an answer; that there is no child left is no reason. -/
def complaint : WaitAnswer → Option Errno
  | quiet => none
  | changed _ word =>
      match WaitWord.decode word with
      | .error reason => some reason
      | .ok _ => none
  | failed reason => if reason = Errno.noChild then none else some reason

/-- The system after the complaint at an answer, if there is one. -/
def complain (answer : WaitAnswer) (k : Kernel σ) (s : σ) : σ :=
  match answer.complaint with
  | some reason => k.note (collectWarning (ProcessFailure.wait reason).message) s
  | none => s

/-- An answer that does not end a sweep told something or was cut short. -/
theorem isReport_of_not_endsSweep {answer : WaitAnswer} (goes : answer.endsSweep = false) :
    answer.isReport = true := by
  cases answer with
  | quiet => cases goes
  | changed pid word => rfl
  | failed reason => simpa [endsSweep, isReport] using goes

end WaitAnswer

/-- What is answered when any child is asked after so often, and the system then. -/
inductive Kernel.Answers (k : Kernel σ) : σ → List WaitAnswer → σ → Prop where
  | nil (s : σ) : Answers k s [] s
  | cons {s t u : σ} {answer : WaitAnswer} {later : List WaitAnswer}
      (polled : k.poll .any s = (answer, t)) (others : Answers k t later u) :
      Answers k s (answer :: later) u

/-- The backlog bounds the reports and interruptions that are still to come. -/
def Kernel.BoundsReports (k : Kernel σ) : Prop :=
  ∀ {s t : σ} {answer : WaitAnswer}, k.poll .any s = (answer, t) → answer.isReport = true →
    k.backlog t < k.backlog s

/-- A count of the events that a system has still to deliver: each one that is delivered lowers it, and nothing
else that is answered raises it. -/
structure Kernel.Delivers (k : Kernel σ) (pending : σ → Nat) : Prop where
  event {s t : σ} {pid : Pid} {word : Int} :
    k.poll .any s = (.changed pid word, t) → pending t < pending s
  other {s t : σ} {answer : WaitAnswer} : k.poll .any s = (answer, t) → pending t ≤ pending s

/-! ### The loop -/

section

variable {k : Kernel σ} {s t u : σ}

/-- One turn of a sweep: it ends at the answer, or it keeps the termination in it and goes on. -/
theorem sweepWithin_succ {answer : WaitAnswer} (polled : k.poll .any s = (answer, t)) (fuel : Nat) :
    sweepWithin k (fuel + 1) s =
      if answer.endsSweep then ([], answer.complain k t)
      else (answer.gathered.toList ++ (sweepWithin k fuel t).1, (sweepWithin k fuel t).2) := by
  cases answer with
  | quiet => simp [sweepWithin, polled, WaitAnswer.endsSweep, WaitAnswer.complain, WaitAnswer.complaint]
  | failed reason =>
      by_cases alone : reason = Errno.noChild
      · have other : Errno.noChild ≠ Errno.interrupted := by decide
        simp [sweepWithin, polled, WaitAnswer.endsSweep, WaitAnswer.complain, WaitAnswer.complaint, alone,
          other]
      · by_cases cut : reason = Errno.interrupted
        · have other : Errno.interrupted ≠ Errno.noChild := by decide
          simp [sweepWithin, polled, WaitAnswer.endsSweep, WaitAnswer.gathered, cut, other]
        · simp [sweepWithin, polled, WaitAnswer.endsSweep, WaitAnswer.complain, WaitAnswer.complaint, alone,
            cut]
  | changed pid word =>
      cases read : WaitWord.decode word with
      | error reason =>
          simp [sweepWithin, polled, WaitAnswer.endsSweep, WaitAnswer.complain, WaitAnswer.complaint, read,
            Except.isOk, Except.toBool]
      | ok ending =>
          cases ending with
          | none =>
              simp [sweepWithin, polled, WaitAnswer.endsSweep, WaitAnswer.gathered, read, Except.isOk,
                Except.toBool]
          | some status =>
              simp [sweepWithin, polled, WaitAnswer.endsSweep, WaitAnswer.gathered, read, Except.isOk,
                Except.toBool]

namespace Kernel.Answers

variable {answers before : List WaitAnswer} {stop : WaitAnswer}

/-- A row of answers and one more: the system in between. -/
theorem concat_iff :
    k.Answers s (answers ++ [stop]) u ↔ ∃ t, k.Answers s answers t ∧ k.poll .any t = (stop, u) := by
  induction answers generalizing s with
  | nil =>
      constructor
      · rintro (_ | ⟨polled, ⟨⟩⟩)
        exact ⟨s, .nil s, polled⟩
      · rintro ⟨t, ⟨⟩, polled⟩
        exact .cons polled (.nil u)
  | cons answer later ih =>
      constructor
      · rintro (_ | ⟨polled, others⟩)
        obtain ⟨t, row, last⟩ := ih.1 others
        exact ⟨t, .cons polled row, last⟩
      · rintro ⟨t, _ | ⟨polled, others⟩, last⟩
        exact .cons polled (ih.2 ⟨t, others, last⟩)

/-- Where some of the answers lower a count and none of them raises it, there are no more of them than it can be
lowered. -/
theorem countP_le {lowers : WaitAnswer → Bool} {count : σ → Nat} (row : k.Answers s answers t)
    (each : ∀ answer ∈ answers, ∀ s t, k.poll .any s = (answer, t) →
      count t + (if lowers answer then 1 else 0) ≤ count s) :
    answers.countP lowers + count t ≤ count s := by
  induction row with
  | nil s => simp
  | @cons s t u answer later polled others ih =>
      have first := each answer List.mem_cons_self s t polled
      have rest := ih fun answer member => each answer (List.mem_cons_of_mem _ member)
      rw [List.countP_cons]
      omega

/-- Where the backlog bounds the reports, so many answers can follow one another without an end of the sweep. -/
theorem length_le_backlog (bounded : k.BoundsReports) (row : k.Answers s answers t)
    (going : ∀ answer ∈ answers, answer.endsSweep = false) : answers.length + k.backlog t ≤ k.backlog s := by
  have each : answers.countP (fun _ => true) + k.backlog t ≤ k.backlog s := by
    apply row.countP_le
    intro answer member s t polled
    exact bounded polled (WaitAnswer.isReport_of_not_endsSweep (going answer member))
  simpa using each

/-- With turns enough to get there, a sweep returns the terminations before the first answer that ends it, and
leaves the system as it is after that answer, but for a complaint. -/
theorem sweepWithin_eq (row : k.Answers s (before ++ [stop]) t)
    (going : ∀ answer ∈ before, answer.endsSweep = false) (ends : stop.endsSweep = true) {fuel : Nat}
    (enough : before.length < fuel) :
    sweepWithin k fuel s = (before.filterMap WaitAnswer.gathered, stop.complain k t) := by
  induction before generalizing s fuel with
  | nil =>
      cases fuel with
      | zero => exact absurd enough (Nat.not_lt_zero _)
      | succ fuel =>
          cases row with
          | cons polled others =>
              cases others
              rw [sweepWithin_succ polled, if_pos ends]
              rfl
  | cons answer later ih =>
      cases fuel with
      | zero => exact absurd enough (Nat.not_lt_zero _)
      | succ fuel =>
          cases row with
          | cons polled others =>
              have goes : answer.endsSweep = false := going answer List.mem_cons_self
              have rest := ih others (fun other member => going other (List.mem_cons_of_mem _ member))
                (Nat.lt_of_succ_lt_succ enough)
              rw [sweepWithin_succ polled, goes, if_neg Bool.false_ne_true, rest, List.filterMap_cons]
              cases answer.gathered <;> rfl

/-- Where the backlog bounds the reports, an end of the sweep is reached. -/
theorem exists_end (bounded : k.BoundsReports) (s : σ) :
    ∃ before stop t, k.Answers s (before ++ [stop]) t ∧
      (∀ answer ∈ before, answer.endsSweep = false) ∧ stop.endsSweep = true := by
  induction size : k.backlog s using Nat.strong_induction_on generalizing s with
  | _ size ih =>
      subst size
      rcases polled : k.poll .any s with ⟨answer, t⟩
      cases ends : answer.endsSweep with
      | true => exact ⟨[], answer, t, .cons polled (.nil t), by simp, ends⟩
      | false =>
          have fewer := bounded polled (WaitAnswer.isReport_of_not_endsSweep ends)
          obtain ⟨before, stop, u, row, going, last⟩ := ih _ fewer t rfl
          refine ⟨answer :: before, stop, u, .cons polled row, ?_, last⟩
          intro other member
          rcases List.mem_cons.1 member with rfl | inside
          · exact ends
          · exact going other inside

/-- Of the questions up to the first answer that ends a sweep, those that are not cut short are at most one
more than the events that are still to be delivered. -/
theorem calls_le {pending : σ → Nat} (delivers : k.Delivers pending)
    (row : k.Answers s (before ++ [stop]) t) (going : ∀ answer ∈ before, answer.endsSweep = false) :
    (before ++ [stop]).countP (· != .failed Errno.interrupted) ≤ pending s + 1 := by
  obtain ⟨u, first, -⟩ := concat_iff.1 row
  have events : before.countP (· != .failed Errno.interrupted) + pending u ≤ pending s := by
    apply first.countP_le
    intro answer member s t polled
    cases answer with
    | quiet => cases going _ member
    | changed pid word =>
        have lowered : pending t + 1 ≤ pending s := delivers.event polled
        simpa using lowered
    | failed reason =>
        have cut : reason = Errno.interrupted := by simpa [WaitAnswer.endsSweep] using going _ member
        simpa [cut] using delivers.other polled
  have last : [stop].countP (· != .failed Errno.interrupted) ≤ 1 := List.countP_le_length
  rw [List.countP_append]
  omega

end Kernel.Answers

end

/-- On a faithful system the backlog bounds the reports. -/
theorem Kernel.Faithful.boundsReports {k : Kernel σ} {history : σ → History}
    (faithful : k.Faithful history) : k.BoundsReports :=
  fun polled report => faithful.poll_backlog polled report

/-- On a faithful system no more events are to be delivered than there are children to be collected. -/
theorem Kernel.Faithful.delivers {k : Kernel σ} {history : σ → History} (faithful : k.Faithful history) :
    k.Delivers fun s => (history s).children.length := by
  constructor
  · intro s t pid word polled
    have passage := faithful.poll polled
    obtain ⟨g, before, ⟨there, -⟩, -⟩ := passage.cons
    rw [before.numbers_eq_of_nil] at there
    obtain ⟨child, inside, rfl⟩ := List.mem_map.1 there
    rw [passage.children_eq]
    exact List.length_filter_lt_length_iff_exists.2 ⟨child, inside, by simp⟩
  · intro s t answer polled
    have passage := faithful.poll polled
    exact (passage.children_sublist (by simp [Event.makes])).length_le

namespace Machine

/-- Collecting a child of the shell leaves fewer of them. -/
theorem backlog_remove_lt {m : Machine} {wanted : Process → Bool} {p : Process}
    (ended : m.endedChild? m.shellNumber wanted = some p) : (m.remove p.number).backlog < m.backlog := by
  have member : p ∈ m.children m.shellNumber := List.mem_of_find?_eq_some ended
  have left : (m.remove p.number).children m.shellNumber =
      (m.children m.shellNumber).filter fun other => other.number != p.number := by
    simp only [children, remove, List.filter_filter, Bool.and_comm]
  rw [backlog, backlog]
  change ((m.remove p.number).children m.shellNumber).length < _
  rw [left]
  exact List.length_filter_lt_length_iff_exists.2 ⟨p, member, by simp⟩

/-- A question after any child that is answered by an event leaves fewer children to be collected, and any
other one leaves the machine as it is. -/
theorem poll_backlog {m m' : Machine} {target : WaitTarget} {answer : WaitAnswer}
    (polled : kernel.poll target m = (answer, m')) :
    (∃ pid word, answer = .changed pid word ∧ m'.backlog < m.backlog) ∨
      answer.isReport = false ∧ m' = m := by
  have other : Errno.noChild ≠ Errno.interrupted := by decide
  change answered (.failed Errno.noChild) (poll target) m = (answer, m') at polled
  rw [answered] at polled
  split_ifs at polled with gone
  · obtain ⟨rfl, rfl⟩ := Prod.mk.inj polled
    exact .inr ⟨by simp [WaitAnswer.isReport, other], rfl⟩
  · rw [poll] at polled
    split at polled
    · next p ended =>
      obtain ⟨rfl, rfl⟩ := Prod.mk.inj polled
      exact .inl ⟨_, _, rfl, backlog_remove_lt ended⟩
    · split_ifs at polled with running
      · obtain ⟨rfl, rfl⟩ := Prod.mk.inj polled
        exact .inr ⟨rfl, rfl⟩
      · obtain ⟨rfl, rfl⟩ := Prod.mk.inj polled
        exact .inr ⟨by simp [WaitAnswer.isReport, other], rfl⟩

/-- On the machine the backlog bounds the reports. -/
theorem boundsReports : kernel.BoundsReports := by
  intro m m' answer polled report
  rcases poll_backlog polled with ⟨pid, word, -, fewer⟩ | ⟨silent, -⟩
  · exact fewer
  · rw [silent] at report
    cases report

/-- On the machine no more events are to be delivered than there are children to be collected. -/
theorem delivers : kernel.Delivers backlog := by
  constructor
  · intro m m' pid word polled
    exact boundsReports polled rfl
  · intro m m' answer polled
    rcases poll_backlog polled with ⟨_, _, -, fewer⟩ | ⟨-, rfl⟩
    · exact Nat.le_of_lt fewer
    · exact Nat.le_refl _

end Machine

/-! ### Any row of answers -/

/-- A system that answers from a tape, and keeps the notes that it takes. -/
structure Tape where
  toCome : List WaitAnswer
  notes : List Diagnostics.Note := []
deriving Repr, DecidableEq

namespace Tape

/-- What is answered, and the tape behind it; at its end there is no child. -/
def pull (tape : Tape) : WaitAnswer × Tape :=
  match tape.toCome with
  | [] => (.failed Errno.noChild, tape)
  | answer :: later => (answer, { tape with toCome := later })

/-- The calls of the shell, of which only questions after children and notes come to something. -/
def kernel : Kernel Tape :=
  { fork := fun _ tape => (.error Errno.noChild, tape)
    await := fun _ tape => some tape.pull
    poll := fun _ tape => tape.pull
    backlog := fun tape => tape.toCome.length
    kill := fun _ _ tape => (.error Errno.noProcess, tape)
    sleep := fun _ tape => tape
    clock := fun _ => 0
    toggles := fun tape => (0, tape)
    changeDirectory := fun _ tape => (.error Errno.noEntry, tape)
    workingDirectory := fun _ => none
    homeVariable := fun _ => none
    accountHome := fun _ => none
    read := fun _ tape => some (.ok [], tape)
    unread := fun _ => 0
    write := fun _ _ tape => tape
    note := fun note tape => { tape with notes := tape.notes ++ [note] }
    listen := fun _ tape => tape
    arm := fun tape => tape }

theorem boundsReports : kernel.BoundsReports := by
  intro tape behind answer polled report
  obtain ⟨toCome, notes⟩ := tape
  cases toCome with
  | nil =>
      obtain ⟨rfl, -⟩ := Prod.mk.inj polled
      cases report
  | cons first later =>
      obtain ⟨-, rfl⟩ := Prod.mk.inj polled
      exact Nat.lt_succ_self later.length

/-- The events on a tape. -/
def events (tape : Tape) : Nat :=
  tape.toCome.countP fun answer => answer matches .changed _ _

theorem delivers : kernel.Delivers events := by
  constructor
  · rintro ⟨_ | ⟨first, later⟩, notes⟩ behind pid word polled
    · cases polled
    · obtain ⟨rfl, rfl⟩ := Prod.mk.inj polled
      simp [events]
  · rintro ⟨_ | ⟨first, later⟩, notes⟩ behind answer polled
    · obtain ⟨-, rfl⟩ := Prod.mk.inj polled
      exact Nat.le_refl _
    · obtain ⟨-, rfl⟩ := Prod.mk.inj polled
      simp [events, List.countP_cons]

/-- A tape answers what is on it. -/
theorem answers (row after : List WaitAnswer) (notes : List Diagnostics.Note) :
    kernel.Answers ⟨row ++ after, notes⟩ row ⟨after, notes⟩ := by
  induction row with
  | nil => exact .nil _
  | cons answer later ih => exact .cons rfl ih

end Tape

/-- What a sweep comes to, whatever is answered.  It returns the terminations before the first answer that ends
it, each with its number and status, in their order, and has heard nothing behind that answer; it asks once
more than there are events to be delivered at most, questions that are cut short apart; and any row of answers
may be what it hears. -/
theorem sweep_stream {k : Kernel σ} (bounded : k.BoundsReports) :
    (∀ s before stop t, k.Answers s (before ++ [stop]) t →
      (∀ answer ∈ before, answer.endsSweep = false) → stop.endsSweep = true →
      sweep k s = (before.filterMap WaitAnswer.gathered, stop.complain k t)) ∧
    (∀ pending, k.Delivers pending → ∀ s, ∃ before stop t, k.Answers s (before ++ [stop]) t ∧
      (∀ answer ∈ before, answer.endsSweep = false) ∧ stop.endsSweep = true ∧
      (before ++ [stop]).countP (· != .failed Errno.interrupted) ≤ pending s + 1) ∧
    ∀ before stop after notes, (∀ answer ∈ before, answer.endsSweep = false) → stop.endsSweep = true →
      sweep Tape.kernel ⟨before ++ stop :: after, notes⟩ =
        (before.filterMap WaitAnswer.gathered, stop.complain Tape.kernel ⟨after, notes⟩) := by
  have hears {σ : Type} {k : Kernel σ} (bounded : k.BoundsReports) {s t : σ} {before : List WaitAnswer}
      {stop : WaitAnswer} (row : k.Answers s (before ++ [stop]) t)
      (going : ∀ answer ∈ before, answer.endsSweep = false) (ends : stop.endsSweep = true) :
      sweep k s = (before.filterMap WaitAnswer.gathered, stop.complain k t) := by
    obtain ⟨u, first, -⟩ := Kernel.Answers.concat_iff.1 row
    have few := first.length_le_backlog bounded going
    exact row.sweepWithin_eq going ends (by omega)
  refine ⟨?_, ?_, ?_⟩
  · intro s before stop t row going ends
    exact hears bounded row going ends
  · intro pending delivers s
    obtain ⟨before, stop, t, row, going, ends⟩ := Kernel.Answers.exists_end bounded s
    exact ⟨before, stop, t, row, going, ends, row.calls_le delivers going⟩
  · intro before stop after notes going ends
    apply hears Tape.boundsReports _ going ends
    have row := Tape.answers (before ++ [stop]) after notes
    rwa [List.append_assoc] at row

/-- Two terminations are returned though a failure follows, with a question cut short and a stopped child
between them; the failure is noted, and what would have been answered behind it is not heard.  Three events
and the failure are four questions. -/
theorem sweep_stream_taped :
    let before : List WaitAnswer :=
      [.changed 7 768, .failed Errno.interrupted, .changed 8 4991, .changed 9 137]
    let stop : WaitAnswer := .failed Errno.inputOutput
    let tape : Tape := { toCome := before ++ [stop, .changed 10 0] }
    let failure := collectWarning (ProcessFailure.wait Errno.inputOutput).message
    sweep Tape.kernel tape =
        ([⟨7, .exited 3⟩, ⟨9, .signaled 9⟩], { toCome := [.changed 10 0], notes := [failure] }) ∧
      ∃ row, (∃ reached, Tape.kernel.Answers tape row reached) ∧
        row.countP (· != .failed Errno.interrupted) ≤ 5 := by
  intro before stop tape failure
  obtain ⟨hears, few, -⟩ := sweep_stream Tape.boundsReports
  constructor
  · have row : Tape.kernel.Answers tape (before ++ [stop]) { toCome := [.changed 10 0] } :=
      Tape.answers (before ++ [stop]) [.changed 10 0] []
    rw [hears tape before stop _ row (by decide) (by decide)]
    rfl
  · obtain ⟨row, last, reached, answered, -, -, bound⟩ := few Tape.events Tape.delivers tape
    exact ⟨row ++ [last], ⟨reached, answered⟩, bound⟩

end JobShell
