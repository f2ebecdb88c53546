/-
Module: JobShell.Proofs.Tracking
Purpose: What the list of background children is worth.  It always names every child that is still to be
  collected, in the order in which they were made, and besides them only strays: numbers of children that a
  sweep collected without being able to read how they ended.
Main exports: straysAfter, Tracks, Deed.tracks, Tracks.signals_own, Tracks.terminates_own_iff
-/
import JobShell.Proofs.Deeds

namespace JobShell

/-- The strays after one more event: the number of a child that is dropped becomes one, and is one until a
child of that number is returned by a sweep. -/
def straysAfter (strays : List Pid) (event : Event) : List Pid :=
  match event.dropped, event.returned with
  | some pid, _ => strays ++ [pid]
  | none, some child => strays.filter (· != child.pid)
  | none, none => strays

/-- The strays after an operation with these events.  A shutdown forgets all of them. -/
def straysThrough (operation : Operation) (events : List Event) (strays : List Pid) : List Pid :=
  match operation with
  | .reportFinished => events.foldl straysAfter strays
  | .shutdown => []
  | .line _ | .reportModes => strays

/-- The list of background children accounts for the children to be collected and for the strays. -/
structure Tracks (state : ShellState) (h : History) (strays : List Pid) : Prop where
  /-- No two children to be collected have one number. -/
  distinct : h.numbers.Nodup
  /-- The children to be collected stand in the list in the order in which they were made. -/
  ordered : h.numbers.Sublist state.background
  /-- Besides them the list holds the strays and nothing else. -/
  accounted : state.background.Perm (h.numbers ++ strays)
  /-- Every child to be collected was set up for the background. -/
  behind : ∀ child ∈ h.children, child.plan.foreground = false

/-! ### The children after a launch -/

/-- A wait that settles takes the child off the children. -/
theorem foldl_childrenAfter_waits (pid : Pid) (interruptions : Nat) (word : Int)
    (children : List Child) :
    (waits pid interruptions (.changed pid word)).foldl History.childrenAfter children =
      children.filter (·.pid != pid) := by
  rw [waits, List.foldl_append,
    History.foldl_childrenAfter_of_isPlain fun event => isPlain_of_mem_interruptions]
  rfl

/-- A line on the standard output neither makes nor collects a child. -/
theorem Event.isPlain_said (line : String) : (Event.said line).IsPlain :=
  ⟨rfl, rfl⟩

theorem isPlain_of_mem_modeReport {reported seen : UInt64} {event : Event}
    (member : event ∈ modeReport reported seen) : event.IsPlain := by
  rcases List.mem_cons.1 member with rfl | told
  · exact ⟨rfl, rfl⟩
  · obtain ⟨mode, -, rfl⟩ := List.mem_map.1 told
    exact Event.isPlain_said _

theorem isPlain_of_mem_deathNotice {status : Termination} {event : Event}
    (member : event ∈ deathNotice status) : event.IsPlain := by
  cases status with
  | exited code => simp [deathNotice] at member
  | signaled signal =>
      rw [List.mem_singleton.1 member]
      exact Event.isPlain_said _

/-- What the shell writes and counts after a foreground program neither makes nor collects a child. -/
theorem isPlain_of_mem_aftermath {status : Termination} {reported seen : UInt64} {event : Event}
    (member : event ∈ deathNotice status ++ modeReport reported seen) : event.IsPlain := by
  rcases List.mem_append.1 member with death | modes
  · exact isPlain_of_mem_deathNotice death
  · exact isPlain_of_mem_modeReport modes

/-- A child with a fresh number that is made and collected leaves no trace among the children. -/
theorem filter_concat_of_fresh {children : List Child} {plan : LaunchPlan} {pid : Pid}
    (fresh : pid ∉ children.map Child.pid) :
    (children ++ [Child.mk plan pid]).filter (·.pid != pid) = children := by
  rw [List.filter_append, List.filter_eq_self.2]
  · simp
  · intro child member
    have different : child.pid ≠ pid := fun same => fresh (same ▸ List.mem_map_of_mem member)
    simpa using different

/-- A launch leaves the children and the list as they are, or adds the same background child to both. -/
theorem Launched.children {state state' : ShellState} {calls : List Event} {h h' : History}
    (launched : Launched state calls state') (passage : Passage h calls h') :
    (state'.background = state.background ∧ h'.children = h.children) ∨
      ∃ plan pid, plan.foreground = false ∧ pid ∉ h.numbers ∧
        state'.background = state.background ++ [pid] ∧ h'.children = h.children ++ [⟨plan, pid⟩] := by
  have fresh : ∀ {plan pid later}, calls = .forked plan pid :: later → pid ∉ h.numbers := by
    rintro plan pid later rfl
    exact passage.not_mem_of_forked
  rw [passage.children_eq]
  cases launched with
  | refused => exact .inl ⟨rfl, rfl⟩
  | waited pid how interruptions reported seen front named =>
      refine .inl ⟨rfl, ?_⟩
      rw [List.cons_append, List.foldl_cons, List.foldl_append, foldl_childrenAfter_waits,
        History.foldl_childrenAfter_of_isPlain fun event => isPlain_of_mem_aftermath]
      exact filter_concat_of_fresh (fresh rfl)
  | lost pid how interruptions front nameless =>
      refine .inl ⟨rfl, ?_⟩
      rw [List.foldl_cons, foldl_childrenAfter_waits]
      exact filter_concat_of_fresh (fresh rfl)
  | @running plan answer pid behind still =>
      refine .inr ⟨plan, pid, behind, fresh rfl, rfl, ?_⟩
      rw [List.foldl_cons, History.foldl_childrenAfter_of_isPlain]
      · rfl
      · intro event member
        simp only [List.mem_cons, List.not_mem_nil, or_false] at member
        rcases member with rfl | rfl
        · exact ⟨rfl, still⟩
        · exact Event.isPlain_said _
  | prompt pid how behind named => exact .inl ⟨rfl, filter_concat_of_fresh (fresh rfl)⟩
  | unread pid how behind nameless => exact .inl ⟨rfl, filter_concat_of_fresh (fresh rfl)⟩

/-! ### What one event does to the account -/

namespace Tracks

variable {state : ShellState} {h h' : History} {strays : List Pid}

/-- Without children and with an empty list there is nothing to account for. -/
theorem start (idle : state.background = []) (childless : h.children = []) : Tracks state h [] := by
  have nobody : h.numbers = [] := by simp [History.numbers, childless]
  constructor
  · simp [nobody]
  · simp [nobody]
  · simp [nobody, idle]
  · simp [childless]

/-- Without strays the list is exact. -/
theorem exact (tracks : Tracks state h []) : state.background = h.numbers := by
  have same := tracks.accounted.length_eq
  rw [List.append_nil] at same
  exact (tracks.ordered.eq_of_length same.symm).symm

/-- The account stands as long as the children and the list do. -/
theorem of_eq {state' : ShellState} (tracks : Tracks state h strays)
    (same : state'.background = state.background) (sameChildren : h'.children = h.children) :
    Tracks state' h' strays := by
  have sameNumbers : h'.numbers = h.numbers := congrArg (List.map Child.pid) sameChildren
  constructor
  · rw [sameNumbers]
    exact tracks.distinct
  · rw [sameNumbers, same]
    exact tracks.ordered
  · rw [sameNumbers, same]
    exact tracks.accounted
  · rw [sameChildren]
    exact tracks.behind

/-- A new background child is put at the end of both. -/
theorem track {state' : ShellState} {plan : LaunchPlan} {pid : Pid} (tracks : Tracks state h strays)
    (behind : plan.foreground = false) (fresh : pid ∉ h.numbers)
    (added : state'.background = state.background ++ [pid])
    (addedChild : h'.children = h.children ++ [⟨plan, pid⟩]) : Tracks state' h' strays := by
  have numbers : h'.numbers = h.numbers ++ [pid] := by simp [History.numbers, addedChild]
  constructor
  · rw [numbers, List.nodup_append]
    refine ⟨tracks.distinct, by simp, ?_⟩
    intro one inside other alone same
    exact fresh (List.mem_singleton.1 alone ▸ same ▸ inside)
  · rw [numbers, added]
    exact tracks.ordered.append_right [pid]
  · rw [numbers, added]
    refine (tracks.accounted.append_right [pid]).trans ?_
    rw [List.append_assoc, List.append_assoc]
    exact List.perm_append_comm.append_left _
  · rw [addedChild]
    intro child member
    rcases List.mem_append.1 member with old | new
    · exact tracks.behind child old
    · rw [List.mem_singleton.1 new]
      exact behind

/-- A child that a sweep returns is taken off both, and so are the strays of its number. -/
theorem returned {child : Collected} (tracks : Tracks state h strays)
    (gone : h'.children = h.children.filter (·.pid != child.pid)) :
    Tracks (state.settle child) h' (strays.filter (· != child.pid)) := by
  have numbers : h'.numbers = h.numbers.filter (· != child.pid) := by
    rw [History.numbers, gone, History.map_pid_filter, History.numbers]
  constructor
  · rw [numbers]
    exact tracks.distinct.filter _
  · rw [numbers]
    exact tracks.ordered.filter _
  · rw [numbers, ← List.filter_append]
    exact tracks.accounted.filter _
  · rw [gone]
    intro other member
    exact tracks.behind other (List.mem_filter.1 member).1

/-- A child that a sweep drops is taken off the children, and its number becomes a stray. -/
theorem dropped {pid : Pid} (tracks : Tracks state h strays) (there : pid ∈ h.numbers)
    (gone : h'.children = h.children.filter (·.pid != pid)) : Tracks state h' (strays ++ [pid]) := by
  have numbers : h'.numbers = h.numbers.filter (· != pid) := by
    rw [History.numbers, gone, History.map_pid_filter, History.numbers]
  have apart : h.numbers.Perm (h'.numbers ++ [pid]) := by
    rw [numbers, ← tracks.distinct.erase_eq_filter]
    exact (List.perm_cons_erase there).trans (List.perm_append_singleton _ _).symm
  constructor
  · rw [numbers]
    exact tracks.distinct.filter _
  · rw [numbers]
    exact List.filter_sublist.trans tracks.ordered
  · refine (tracks.accounted.trans (apart.append_right strays)).trans ?_
    rw [List.append_assoc]
    exact List.perm_append_comm.append_left _
  · rw [gone]
    intro other member
    exact tracks.behind other (List.mem_filter.1 member).1

end Tracks

/-! ### What an operation does to the account -/

section

variable {state state' : ShellState} {h h' : History} {strays : List Pid} {calls : List Event}

/-- A sweep keeps the account, at the price of a stray where it breaks off. -/
theorem Swept.tracks {collected : List Collected} (swept : Swept calls collected)
    (passage : Passage h calls h') (tracks : Tracks state h strays) :
    Tracks (collected.foldl ShellState.settle state) h' (calls.foldl straysAfter strays) := by
  induction swept generalizing h state strays with
  | quiet => exact tracks.of_eq rfl passage.children_eq
  | alone => exact tracks.of_eq rfl passage.children_eq
  | unreadable pid how nameless =>
      obtain ⟨g, before, ⟨there, -⟩, -⟩ := passage.cons
      rw [before.numbers_eq_of_nil] at there
      have stray : straysAfter strays (.polled .any (.changed pid how.word)) = strays ++ [pid] := by
        simp [straysAfter, Event.dropped, how.decode_word_of_not_isNamed nameless]
      simp only [List.foldl_cons, List.foldl_nil, stray]
      exact tracks.dropped there passage.children_eq
  | interrupted later ih =>
      obtain ⟨g, same, after⟩ := passage.tail ⟨rfl, rfl⟩
      exact ih after (tracks.of_eq rfl same)
  | returned pid how named later ih =>
      obtain ⟨g, before, -, after⟩ := passage.cons
      have gone : History.children (g ++ [.polled .any (.changed pid how.word)]) =
          h.children.filter (·.pid != pid) := by
        simp [History.childrenAfter, before.children_eq_of_nil]
      have stray : straysAfter strays (.polled .any (.changed pid how.word)) =
          strays.filter (· != pid) := by
        simp [straysAfter, Event.dropped, Event.returned, how.decode_word_of_isNamed named]
      simp only [List.foldl_cons, stray]
      exact ih after (tracks.returned gone)

/-- Reports leave the strays as they are. -/
theorem foldl_straysAfter_reports (collected : List Collected) (strays : List Pid) :
    (collected.map .report).foldl straysAfter strays = strays := by
  induction collected with
  | nil => rfl
  | cons child rest ih => exact ih

/-- After a stop nobody is left. -/
theorem Stopped.tracks (stopped : Stopped state.background calls) (passage : Passage h calls h')
    (tracks : Tracks state h strays) : Tracks { state with background := [] } h' [] := by
  have nobody : h'.numbers = [] := by
    refine List.eq_nil_iff_forall_not_mem.2 fun pid member => ?_
    by_cases listed : pid ∈ state.background
    · exact stopped.not_mem_numbers passage listed member
    · have absent : pid ∉ h.numbers := fun there => listed (tracks.ordered.subset there)
      exact passage.not_mem (fun call inside => by simp [stopped.makes call inside]) absent member
  have childless : h'.children = [] := List.map_eq_nil_iff.1 nobody
  constructor
  · simp [nobody]
  · simp [nobody]
  · simp [nobody]
  · simp [childless]

/-- Every operation keeps the account. -/
theorem Deed.tracks {operation : Operation} (deed : Deed state operation calls state')
    (passage : Passage h calls h') (tracks : Tracks state h strays) :
    Tracks state' h' (straysThrough operation calls strays) := by
  cases deed with
  | idle text => exact tracks.of_eq rfl passage.children_eq
  | moved text path directory => exact tracks.of_eq rfl passage.children_eq
  | told text => exact tracks.of_eq rfl passage.children_eq
  | launched text seen launched =>
      obtain ⟨g, same, after⟩ := passage.tail ⟨rfl, rfl⟩
      have here := tracks.of_eq rfl same
      rcases launched.children after with
        ⟨sameList, sameChildren⟩ | ⟨plan, pid, behind, fresh, added, addedChild⟩
      · exact here.of_eq sameList sameChildren
      · exact here.track behind fresh added addedChild
  | announced reported seen =>
      refine tracks.of_eq rfl ?_
      rw [passage.children_eq, History.foldl_childrenAfter_of_isPlain]
      exact fun event member => isPlain_of_mem_modeReport member
  | swept swept =>
      obtain ⟨g, sweeping, telling⟩ := passage.split
      have same : h'.children = g.children := by
        rw [telling.children_eq, History.foldl_childrenAfter_of_isPlain]
        intro event member
        obtain ⟨child, -, rfl⟩ := List.mem_map.1 member
        exact Event.isPlain_said _
      rw [straysThrough, List.foldl_append, foldl_straysAfter_reports]
      exact (swept.tracks sweeping tracks).of_eq rfl same
  | stopped stopped => exact stopped.tracks passage tracks

/-- A shutdown stops the children in the list. -/
theorem Deed.stopped_of_shutdown (deed : Deed state .shutdown calls state') :
    Stopped state.background calls ∧ state' = { state with background := [] } := by
  cases deed with
  | stopped stopped => exact ⟨stopped, rfl⟩

/-! ### Whom a shutdown signals -/

variable {happened before after : List Event} {pid : Pid} {signal : StopSignal}

/-- Every signal of a stop goes to a child that is still to be collected, or to a stray. -/
theorem Tracks.signals_own (tracks : Tracks state h strays)
    (stopped : Stopped state.background (happened.filter Event.isCall)) (proper : h.Proper happened)
    (split : happened = before ++ .signalled pid signal :: after) :
    pid ∈ (h ++ before).numbers ∨ pid ∈ strays := by
  subst split
  rw [List.filter_append, List.filter_cons_of_pos rfl] at stopped
  have listed : pid ∈ state.background :=
      stopped.signalled_mem (List.mem_append_right _ List.mem_cons_self)
  rcases List.mem_append.1 (tracks.accounted.subset listed) with there | stray
  · by_cases stray : pid ∈ strays
    · exact .inr stray
    · -- A number that is no stray stands in the list once, so it is signalled only before it is collected.
      have once : state.background.count pid ≤ 1 := by
        rw [tracks.accounted.count_eq, List.count_append, List.count_eq_zero.2 stray]
        exact List.nodup_iff_count.1 tracks.distinct pid
      have spared := (List.pairwise_append.1 (stopped.pairwise_spares once)).2.2
      refine .inl ((Passage.of_proper proper).mem (fun call member collects => ?_) there)
      exact spared call member _ List.mem_cons_self collects signal rfl
  · exact .inr stray

/-- A stop asks only its own children to end exactly if every stray is again the number of a child. -/
theorem Tracks.terminates_own_iff (tracks : Tracks state h strays)
    (stopped : Stopped state.background (happened.filter Event.isCall)) (proper : h.Proper happened) :
    (∀ before pid after, happened = before ++ .signalled pid .terminate :: after →
        pid ∈ (h ++ before).numbers) ↔ ∀ pid ∈ strays, pid ∈ h.numbers := by
  constructor
  · intro own pid stray
    have listed : pid ∈ state.background :=
      tracks.accounted.symm.subset (List.mem_append_right _ stray)
    have sent : .signalled pid .terminate ∈ happened :=
      (List.mem_filter.1 (stopped.terminate_mem listed)).1
    obtain ⟨before, after, split⟩ := List.append_of_mem sent
    have there := own before pid after split
    subst split
    refine Decidable.byContradiction fun absent =>
      (Passage.of_proper proper).not_mem (fun call member => ?_) absent there
    have made := stopped.makes call (by simp [(List.mem_filter.1 member)])
    simp [made]
  · rintro again before pid after rfl
    rw [List.filter_append, List.filter_cons_of_pos rfl] at stopped
    have listed : pid ∈ state.background :=
      stopped.signalled_mem (List.mem_append_right _ List.mem_cons_self)
    have there : pid ∈ h.numbers := by
      rcases List.mem_append.1 (tracks.accounted.subset listed) with there | stray
      · exact there
      · exact again pid stray
    -- Nobody is collected before everybody has been asked to end.
    have first := (List.pairwise_append.1 stopped.pairwise_terminate).2.2
    refine (Passage.of_proper proper).mem (fun call member => ?_) there
    simp [first call member _ List.mem_cons_self pid rfl]

end

end JobShell
