/-
Module: JobShell.Proofs.JobTable
Purpose: The job table.  In every run that starts without children, and in which every child ends in a way
  that has a name, the list of background children is exactly the list of the children that have been made
  and not yet collected.
Main exports: background_eq_children
-/
import JobShell.Proofs.Rehearsal

namespace JobShell

variable {σ : Type} {k : Kernel σ} {history : σ → History}

/-- Between any two operations the list of background children has no number twice and names, in the order
in which they were made, the children to be collected, all of which were set up for the background. -/
theorem background_eq_children (faithful : k.Faithful history) {first last : Shell σ}
    {turns : List Turn} (idle : first.state.background = [])
    (childless : (history first.system).children = [])
    (session : Session k history first turns last)
    (named : ∀ event ∈ eventsOf turns, event.isNamed = true) :
    last.state.background.Nodup ∧
      last.state.background = (history last.system).children.map Child.pid ∧
      ∀ child ∈ (history last.system).children, child.plan.foreground = false := by
  have tracks := session.tracks faithful idle childless
  rw [session.straysOf_eq_nil faithful childless named] at tracks
  have exact : last.state.background = (history last.system).numbers := tracks.exact
  refine ⟨?_, exact, tracks.behind⟩
  rw [exact]
  exact tracks.distinct

/-- Two children are launched, the first ends and is reported, and a third is demoted by a suspend signal
and killed in the foreground, under the number that has become free: the second is left. -/
theorem background_eq_children_rehearsed :
    let reached := Rehearsal.result { endings := [.killed 15 false (by decide)] }
      [.ask (.line "a &"), .ask (.line "b &"), .ends 101 (.exited 0), .ask .reportFinished, .suspend,
        .ask (.line "c &"), .ask .reportModes]
    reached.2.state.background = [100] ∧
      reached.2.state.background.Nodup ∧
      reached.2.state.background = reached.2.system.happened.children.map Child.pid ∧
      ∀ child ∈ reached.2.system.happened.children, child.plan.foreground = false :=
  ⟨by rfl,
    background_eq_children Rehearsal.faithful (by rfl) (by rfl) (Rehearsal.session_result _ _ (by rfl))
      (by decide +kernel)⟩

end JobShell
