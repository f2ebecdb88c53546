/-
Module: JobShell.Proofs.Signalling
Purpose: To whom a shutdown sends signals.  They go to background children that are still to be collected, or
  to strays: a child that died by a signal without a name is collected by the sweep that breaks off at it, but
  stays in the list, and is asked to end when it has long been gone.
Main exports: History.misses, shutdown_misses
-/
import JobShell.Proofs.Rehearsal

namespace JobShell

variable {σ : Type} {k : Kernel σ} {history : σ → History}

namespace History

/-- Whether a number stands for a child that was set up for the background and is still to be collected. -/
def HasBehind (h : History) (pid : Pid) : Prop :=
  ∃ child ∈ h.children, child.pid = pid ∧ child.plan.foreground = false

instance (h : History) (pid : Pid) : Decidable (h.HasBehind pid) :=
  inferInstanceAs (Decidable (∃ child ∈ h.children, _))

/-- The signals that go to no background child to be collected at that moment. -/
def misses (h : History) : List Event → List (Pid × StopSignal)
  | [] => []
  | .signalled pid signal :: later =>
      if h.HasBehind pid then misses (h ++ [.signalled pid signal]) later
      else (pid, signal) :: misses (h ++ [.signalled pid signal]) later
  | event :: later => misses (h ++ [event]) later

/-- A signal misses if there is no such child at its moment. -/
theorem mem_misses {h : History} {events : List Event} {pid : Pid} {signal : StopSignal} :
    (pid, signal) ∈ h.misses events ↔
      ∃ before after, events = before ++ .signalled pid signal :: after ∧
        ¬ HasBehind (h ++ before) pid := by
  induction events generalizing h with
  | nil => simp [misses]
  | cons event later ih =>
      have step : (∃ before after, event :: later = before ++ .signalled pid signal :: after ∧
            ¬ HasBehind (h ++ before) pid) ↔
          (event = .signalled pid signal ∧ ¬ h.HasBehind pid) ∨
            (pid, signal) ∈ misses (h ++ [event]) later := by
        rw [ih]
        constructor
        · rintro ⟨_ | ⟨first, before⟩, after, split, missed⟩
          · obtain ⟨rfl, rfl⟩ := List.cons.inj split
            exact .inl ⟨rfl, by simpa using missed⟩
          · obtain ⟨rfl, rfl⟩ := List.cons.inj split
            exact .inr ⟨before, after, rfl, by simpa using missed⟩
        · rintro (⟨rfl, missed⟩ | ⟨before, after, rfl, missed⟩)
          · exact ⟨[], later, rfl, by simpa using missed⟩
          · exact ⟨event :: before, after, rfl, by simpa using missed⟩
      rw [step]
      cases event with
      | signalled other sent =>
          by_cases there : h.HasBehind other
          · simp only [misses, there, if_true, Event.signalled.injEq]
            constructor
            · exact .inr
            · rintro (⟨⟨rfl, -⟩, missed⟩ | inside)
              · exact absurd there missed
              · exact inside
          · simp only [misses, there, if_false, List.mem_cons, Prod.mk.injEq, Event.signalled.injEq]
            constructor
            · rintro (⟨rfl, rfl⟩ | inside)
              · exact .inl ⟨⟨rfl, rfl⟩, there⟩
              · exact .inr inside
            · rintro (⟨⟨rfl, rfl⟩, -⟩ | inside)
              · exact .inl ⟨rfl, rfl⟩
              · exact .inr inside
      | _ => simp [misses]

/-- In a history without foreground children every number stands for a background child. -/
theorem hasBehind_iff {h : History} (behind : ∀ child ∈ h.children, child.plan.foreground = false)
    (pid : Pid) : h.HasBehind pid ↔ pid ∈ h.numbers := by
  constructor
  · rintro ⟨child, member, rfl, -⟩
    exact List.mem_map_of_mem member
  · intro there
    obtain ⟨child, member, same⟩ := List.mem_map.1 there
    exact ⟨child, member, same, behind child member⟩

end History

/-- The signals of a shutdown that miss are some that go to strays; no request to end misses exactly if every
stray is again the number of a background child to be collected; and none at all misses if every ending has
a name. -/
theorem shutdown_misses (faithful : k.Faithful history) {first last : Shell σ}
    {earlier later : List Turn} {events : List Event} (idle : first.state.background = [])
    (childless : (history first.system).children = [])
    (session : Session k history first (earlier ++ ⟨some .shutdown, events⟩ :: later) last) :
    (∀ miss ∈ History.misses (history first.system ++ eventsOf earlier) events,
        miss.1 ∈ straysOf earlier) ∧
      ((∀ pid, (pid, .terminate) ∉ History.misses (history first.system ++ eventsOf earlier) events) ↔
        ∀ pid ∈ straysOf earlier, History.HasBehind (history first.system ++ eventsOf earlier) pid) ∧
      ((∀ event ∈ eventsOf earlier, event.isNamed = true) →
        History.misses (history first.system ++ eventsOf earlier) events = []) := by
  obtain ⟨sh, sh', soFar, performed, happened⟩ := session.reaches
  have tracks := soFar.tracks faithful idle childless
  obtain ⟨deed, proper⟩ := perform_events faithful performed happened
  obtain ⟨stopped, -⟩ := deed.stopped_of_shutdown
  rw [← (soFar.history_eq faithful).1]
  have behind : ∀ {before after : List Event}, events = before ++ after →
      ∀ child ∈ History.children (history sh.system ++ before), child.plan.foreground = false := by
    rintro before after rfl child member
    rw [List.filter_append] at stopped
    exact tracks.behind child (((Passage.of_proper proper).children_sublist fun call inside =>
      stopped.makes call (List.mem_append_left _ inside)).subset member)
  have strayed : ∀ miss ∈ (history sh.system).misses events, miss.1 ∈ straysOf earlier := by
    rintro ⟨pid, signal⟩ missed
    obtain ⟨before, after, split, absent⟩ := History.mem_misses.1 missed
    rw [History.hasBehind_iff (behind split)] at absent
    exact (tracks.signals_own stopped proper split).resolve_left absent
  refine ⟨strayed, ?_, fun named => ?_⟩
  · have asked := tracks.terminates_own_iff stopped proper
    simp only [History.hasBehind_iff tracks.behind]
    rw [← asked]
    constructor
    · intro none before pid after split
      refine Decidable.byContradiction fun absent => none pid (History.mem_misses.2 ?_)
      exact ⟨before, after, split, by rwa [History.hasBehind_iff (behind split)]⟩
    · intro own pid missed
      obtain ⟨before, after, split, absent⟩ := History.mem_misses.1 missed
      rw [History.hasBehind_iff (behind split)] at absent
      exact absent (own before pid after split)
  · rw [soFar.straysOf_eq_nil faithful childless named] at strayed
    exact List.eq_nil_iff_forall_not_mem.2 fun miss missed => by simpa using strayed miss missed

/-- A background child dies by a signal without a name, is swept, and then the shell is shut down. -/
def strayCues : List Rehearsal.Cue :=
  [.ask (.line "a &"), .ends 100 (.killed 40 false (by decide)), .ask .reportFinished]

/-- The shutdown asks the child to end, and then hears that there is no such child. -/
def strayEvents : List Event :=
  [.signalled 100 .terminate, .polled (.only 100) (.failed Errno.noChild)]

theorem session_strayCues :
    Session Rehearsal.kernel Rehearsal.happened (Rehearsal.shell {})
      ((Rehearsal.result {} strayCues).1 ++ ⟨some .shutdown, strayEvents⟩ :: [])
      (Rehearsal.result {} (strayCues ++ [.ask .shutdown])).2 :=
  Rehearsal.session_result {} (strayCues ++ [Rehearsal.Cue.ask .shutdown]) (by rfl)

theorem shutdown_misses_rehearsed :
    let earlier := (Rehearsal.result {} strayCues).1
    (∀ miss ∈ History.misses (eventsOf earlier) strayEvents, miss.1 ∈ straysOf earlier) ∧
      ((∀ pid, (pid, .terminate) ∉ History.misses (eventsOf earlier) strayEvents) ↔
        ∀ pid ∈ straysOf earlier, History.HasBehind (eventsOf earlier) pid) ∧
      ((∀ event ∈ eventsOf earlier, event.isNamed = true) →
        History.misses (eventsOf earlier) strayEvents = []) :=
  shutdown_misses Rehearsal.faithful (by rfl) (by rfl) session_strayCues

/-- So there is a run of the shell in which a shutdown signals a number that no child has any more. -/
theorem exists_miss :
    ∃ (earlier : List Turn) (events : List Event) (last : Shell Rehearsal),
      Session Rehearsal.kernel Rehearsal.happened (Rehearsal.shell {})
          (earlier ++ ⟨some .shutdown, events⟩ :: []) last ∧
        History.misses (eventsOf earlier) events = [(100, .terminate)] :=
  ⟨_, _, _, session_strayCues, by rfl⟩

end JobShell
