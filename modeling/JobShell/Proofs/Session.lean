/-
Module: JobShell.Proofs.Session
Purpose: Whole runs of the shell: operations in any order, and between them stretches in which the system
  goes on by itself.  The account of `Tracks` holds at the end of every run that starts without children, and
  without strays as long as every ending can be read.
Main exports: Turn, Session, straysOf, Session.tracks, Session.straysOf_eq_nil
-/
import JobShell.Proofs.Tracking

namespace JobShell

variable {σ : Type}

/-- A stretch of a run with all that happened in it: an operation of the shell, or a while in which the
system goes on by itself. -/
structure Turn where
  operation : Option Operation
  events : List Event
deriving Repr, DecidableEq

/-- The runs of a shell, by the turns that have been taken and the shell that is left. -/
inductive Session (k : Kernel σ) (history : σ → History) (first : Shell σ) :
    List Turn → Shell σ → Prop where
  | start : Session k history first [] first
  | perform {turns : List Turn} {events : List Event} {sh sh' : Shell σ} (operation : Operation)
      (soFar : Session k history first turns sh) (performed : operation.perform k sh = some sh')
      (happened : history sh'.system = history sh.system ++ events) :
      Session k history first (turns ++ [⟨some operation, events⟩]) sh'
  | meanwhile {turns : List Turn} {events : List Event} {sh : Shell σ} (system : σ)
      (soFar : Session k history first turns sh) (proper : (history sh.system).Proper events)
      (own : ∀ event ∈ events, event.isCall = false)
      (happened : history system = history sh.system ++ events) :
      Session k history first (turns ++ [⟨none, events⟩]) { sh with system := system }

/-- All that happened in some turns. -/
def eventsOf (turns : List Turn) : List Event :=
  turns.flatMap Turn.events

/-- The strays after one more turn. -/
def Turn.strays (strays : List Pid) (turn : Turn) : List Pid :=
  match turn.operation with
  | some operation => straysThrough operation turn.events strays
  | none => strays

/-- The strays at the end of some turns. -/
def straysOf (turns : List Turn) : List Pid :=
  turns.foldl Turn.strays []

@[simp] theorem eventsOf_concat (turns : List Turn) (turn : Turn) :
    eventsOf (turns ++ [turn]) = eventsOf turns ++ turn.events := by
  simp [eventsOf]

@[simp] theorem straysOf_concat (turns : List Turn) (turn : Turn) :
    straysOf (turns ++ [turn]) = turn.strays (straysOf turns) := by
  simp [straysOf]

/-- The strays depend on the calls of the shell alone. -/
theorem straysThrough_filter (operation : Operation) (events : List Event) (strays : List Pid) :
    straysThrough operation (events.filter Event.isCall) strays =
      straysThrough operation events strays := by
  cases operation with
  | reportFinished =>
      simp only [straysThrough]
      induction events generalizing strays with
      | nil => rfl
      | cons event later ih =>
          cases call : event.isCall with
          | true => simp [call, ih]
          | false =>
              have same : straysAfter strays event = strays := by
                cases event <;> first | rfl | simp [Event.isCall] at call
              simp [call, ih, same]
  | _ => rfl

/-- There is no stray before a child is dropped. -/
theorem foldl_straysAfter_nil {events : List Event}
    (whole : ∀ event ∈ events, event.dropped = none) : events.foldl straysAfter [] = [] := by
  induction events with
  | nil => rfl
  | cons event later ih =>
      have first : straysAfter [] event = [] := by
        simp only [straysAfter, whole event List.mem_cons_self]
        cases event.returned <;> rfl
      rw [List.foldl_cons, first]
      exact ih fun call member => whole call (List.mem_cons_of_mem _ member)

theorem straysOf_eq_nil_of_dropped {turns : List Turn}
    (whole : ∀ event ∈ eventsOf turns, event.dropped = none) : straysOf turns = [] := by
  induction turns with
  | nil => rfl
  | cons turn later ih =>
      rw [eventsOf, List.flatMap_cons] at whole
      have first : turn.strays [] = [] := by
        have here := foldl_straysAfter_nil fun event member => whole event (List.mem_append_left _ member)
        rcases turn with ⟨_ | operation, events⟩
        · rfl
        · cases operation <;> first | rfl | exact here
      rw [straysOf, List.foldl_cons, first]
      exact ih fun event member => whole event (List.mem_append_right _ member)

/-! ### Endings that can be read -/

/-- Whether the shell has a name for the ending, if the event is one. -/
def Event.isNamed : Event → Bool
  | ended _ how => how.isNamed
  | _ => true

/-- Whether the shell can read the word of a child, if the event hands one over. -/
def Event.isLegible : Event → Bool
  | polled _ (.changed _ word) | awaited _ (.changed _ word) =>
      match WaitWord.decode word with
      | .ok (some _) => true
      | _ => false
  | _ => true

/-- Nobody is dropped whose word can be read. -/
theorem Event.dropped_eq_none {event : Event} (legible : event.isLegible = true) :
    event.dropped = none := by
  cases event with
  | polled target answer =>
      cases target <;> cases answer <;> first | rfl | skip
      next pid word =>
      simp only [isLegible] at legible
      simp only [dropped]
      split at legible <;> simp_all
  | _ => rfl

/-- Whether the shell can read how the children that are to be collected have ended. -/
def History.IsReadable (h : History) : Prop :=
  ∀ pid ∈ h.numbers, ∀ how, h.fate pid = some how → how.isNamed = true

namespace History

variable {h : History}

/-- Endings stay readable as long as every new one is. -/
theorem isReadable_concat {event : Event} (readable : h.IsReadable)
    (named : event.isNamed = true) : IsReadable (h ++ [event]) := by
  intro pid member how known
  rw [fate_append, List.foldl_cons, List.foldl_nil] at known
  cases event with
  | ended other ending =>
      by_cases same : other = pid
      · simp only [fateAfter, same, if_true, Option.some.injEq] at known
        exact known ▸ named
      · simp only [fateAfter, same, if_false] at known
        exact readable pid (mem_numbers_of_mem_concat (by simp [Event.makes]) member) how known
  | forked plan other =>
      by_cases same : other = pid
      · simp [fateAfter, same] at known
      · simp only [fateAfter, same, if_false] at known
        exact readable pid (mem_numbers_of_mem_concat (by simpa [Event.makes] using same) member) how known
  | _ => exact readable pid (mem_numbers_of_mem_concat (by simp [Event.makes]) member) how known

/-- Whoever is handed over is handed over with a legible word, as long as the endings can be read. -/
theorem isLegible_of_fits {event : Event} (fits : event.Fits h) (readable : h.IsReadable) :
    event.isLegible = true := by
  cases event with
  | polled target answer =>
      cases answer with
      | changed pid word =>
          obtain ⟨there, -, how, known, rfl⟩ := fits
          simp [Event.isLegible, how.decode_word_of_isNamed (readable pid there how known)]
      | _ => rfl
  | awaited pid answer =>
      cases answer with
      | changed other word =>
          obtain ⟨-, there, -, how, known, rfl⟩ := fits
          simp [Event.isLegible, how.decode_word_of_isNamed (readable other there how known)]
      | _ => rfl
  | _ => rfl

theorem Proper.isReadable {events : List Event} (proper : h.Proper events) (readable : h.IsReadable)
    (named : ∀ event ∈ events, event.isNamed = true) :
    IsReadable (h ++ events) ∧ ∀ event ∈ events, event.isLegible = true := by
  induction events generalizing h with
  | nil => simpa using readable
  | cons event later ih =>
      have next := isReadable_concat readable (named event List.mem_cons_self)
      obtain ⟨last, others⟩ := ih proper.2 next fun call member =>
        named call (List.mem_cons_of_mem _ member)
      refine ⟨by simpa using last, ?_⟩
      intro call member
      rcases List.mem_cons.1 member with rfl | inside
      · exact isLegible_of_fits proper.1 readable
      · exact others call inside

end History

/-! ### Runs -/

section

variable {k : Kernel σ} {history : σ → History}

/-- What happens in an operation is a deed. -/
theorem perform_events (faithful : k.Faithful history) {operation : Operation} {sh sh' : Shell σ}
    {events : List Event} (performed : operation.perform k sh = some sh')
    (happened : history sh'.system = history sh.system ++ events) :
    Deed sh.state operation (events.filter Event.isCall) sh'.state ∧
      (history sh.system).Proper events := by
  obtain ⟨calls, deed, between, same, proper, rfl⟩ := perform_deed faithful performed
  obtain rfl := List.append_cancel_left (same.symm.trans happened)
  exact ⟨deed, proper⟩

namespace Session

variable {first last : Shell σ} {turns : List Turn}

/-- The history of a run is what happened in its turns. -/
theorem history_eq (faithful : k.Faithful history) (session : Session k history first turns last) :
    history last.system = history first.system ++ eventsOf turns ∧
      (history first.system).Proper (eventsOf turns) := by
  induction session with
  | start => simp [eventsOf, History.Proper]
  | perform operation soFar performed happened ih =>
      obtain ⟨same, proper⟩ := ih
      obtain ⟨-, next⟩ := perform_events faithful performed happened
      rw [eventsOf_concat, happened, same, List.append_assoc, History.proper_append]
      exact ⟨rfl, proper, same ▸ next⟩
  | meanwhile system soFar next own happened ih =>
      obtain ⟨same, proper⟩ := ih
      rw [eventsOf_concat, happened, same, List.append_assoc, History.proper_append]
      exact ⟨rfl, proper, same ▸ next⟩

/-- A run comes to the start of each of its operations. -/
theorem reaches {earlier later : List Turn} {operation : Operation} {events : List Event}
    (session : Session k history first (earlier ++ ⟨some operation, events⟩ :: later) last) :
    ∃ sh sh', Session k history first earlier sh ∧ operation.perform k sh = some sh' ∧
      history sh'.system = history sh.system ++ events := by
  generalize taken : earlier ++ ⟨some operation, events⟩ :: later = turns at session
  induction session generalizing later with
  | start => simp at taken
  | @perform turns others sh sh' other soFar performed happened ih =>
      -- The operation is the last turn, or the run before that turn has come to it already.
      rcases List.eq_nil_or_concat later with rfl | ⟨between, turn, rfl⟩
      · obtain ⟨rfl, same⟩ := List.append_inj' taken rfl
        obtain ⟨rfl, rfl⟩ : operation = other ∧ events = others := by simpa using same
        exact ⟨sh, sh', soFar, performed, happened⟩
      · rw [List.concat_eq_append, ← List.cons_append, ← List.append_assoc] at taken
        exact ih (List.append_inj' taken rfl).1
  | @meanwhile turns others sh system soFar proper own happened ih =>
      rcases List.eq_nil_or_concat later with rfl | ⟨between, turn, rfl⟩
      · obtain ⟨-, same⟩ := List.append_inj' taken rfl
        simp at same
      · rw [List.concat_eq_append, ← List.cons_append, ← List.append_assoc] at taken
        exact ih (List.append_inj' taken rfl).1

/-- The list of background children accounts for the children and the strays at the end of every run. -/
theorem tracks (faithful : k.Faithful history) (idle : first.state.background = [])
    (childless : (history first.system).children = [])
    (session : Session k history first turns last) :
    Tracks last.state (history last.system) (straysOf turns) := by
  induction session with
  | start => exact Tracks.start idle childless
  | @perform turns events sh sh' operation soFar performed happened ih =>
      obtain ⟨deed, proper⟩ := perform_events faithful performed happened
      have step := deed.tracks ⟨events, happened, proper, rfl⟩ ih
      rw [straysThrough_filter] at step
      simpa [Turn.strays] using step
  | @meanwhile turns events sh system soFar proper own happened ih =>
      have passage : Passage (history sh.system) [] (history system) := happened ▸ .of_own proper own
      simpa [Turn.strays] using ih.of_eq rfl passage.children_eq

/-- As long as every ending has a name, every word can be read. -/
theorem isLegible (faithful : k.Faithful history) (childless : (history first.system).children = [])
    (session : Session k history first turns last)
    (named : ∀ event ∈ eventsOf turns, event.isNamed = true) :
    ∀ event ∈ eventsOf turns, event.isLegible = true := by
  have start : (history first.system).IsReadable := by
    simp [History.IsReadable, History.numbers, childless]
  exact ((session.history_eq faithful).2.isReadable start named).2

/-- As long as every ending has a name, there are no strays. -/
theorem straysOf_eq_nil (faithful : k.Faithful history)
    (childless : (history first.system).children = [])
    (session : Session k history first turns last)
    (named : ∀ event ∈ eventsOf turns, event.isNamed = true) : straysOf turns = [] :=
  straysOf_eq_nil_of_dropped fun event member =>
    Event.dropped_eq_none (session.isLegible faithful childless named event member)

end Session

end

end JobShell
