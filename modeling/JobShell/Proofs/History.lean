/-
Module: JobShell.Proofs.History
Purpose: What passes between a shell and the system under it, as one list in the order of time: the calls of
  the shell with their answers, and between them what the system does by itself (children end, suspend
  signals arrive).  Which children are still to be collected, and how each of them ended, is read off that
  list; a history is proper if every entry agrees with what stands before it.
Main exports: Event, History, Child, History.children, History.fate, Event.Fits, History.Proper, Passage
-/
import JobShell.Kernel
import JobShell.Proofs.Ending

namespace JobShell

/-- What can happen between a shell and the system under it. -/
inductive Event where
  /-- A child ends. -/
  | ended (pid : Pid) (how : Ending)
  /-- A suspend signal arrives and is counted. -/
  | suspended
  /-- The shell makes a child. -/
  | forked (plan : LaunchPlan) (pid : Pid)
  /-- The shell asks after children without waiting. -/
  | polled (target : WaitTarget) (answer : WaitAnswer)
  /-- The shell waits for a child. -/
  | awaited (pid : Pid) (answer : WaitAnswer)
  /-- The shell sends a signal. -/
  | signalled (pid : Pid) (signal : StopSignal)
  /-- The shell reads the count of mode toggles. -/
  | counted (seen : UInt64)
  /-- The shell changes its working directory. -/
  | moved (path : Text.Bytes)
  /-- The shell writes on one of its streams. -/
  | wrote (stream : Stream) (text : String)
deriving Repr, DecidableEq

/-- All that has happened, the oldest first. -/
abbrev History := List Event

/-- A child that has been made and not yet collected. -/
structure Child where
  plan : LaunchPlan
  pid : Pid
deriving Repr, DecidableEq

/-- Whether a wait asks after a child of this number. -/
def WaitTarget.admits : WaitTarget → Pid → Bool
  | any, _ => true
  | only wanted, pid => wanted == pid

/-- The number of the child that an answer hands over. -/
def WaitAnswer.collects : WaitAnswer → Option Pid
  | changed pid _ => some pid
  | _ => none

namespace Event

/-- Whether the shell does it, and not the system by itself. -/
def isCall : Event → Bool
  | ended _ _ | suspended => false
  | _ => true

/-- The number of the child that is collected by it. -/
def collects : Event → Option Pid
  | polled _ answer | awaited _ answer => answer.collects
  | _ => none

/-- The number of the child that is made by it. -/
def makes : Event → Option Pid
  | forked _ pid => some pid
  | _ => none

/-- Whether it neither makes nor collects a child. -/
def IsPlain (event : Event) : Prop :=
  event.makes = none ∧ event.collects = none

end Event

namespace History

/-- The children after one more event. -/
def childrenAfter (children : List Child) (event : Event) : List Child :=
  match event with
  | .forked plan pid => children ++ [⟨plan, pid⟩]
  | .polled _ (.changed pid _) | .awaited _ (.changed pid _) => children.filter (·.pid != pid)
  | _ => children

/-- The children that have been made and not yet collected, in the order in which they were made. -/
def children (h : History) : List Child :=
  h.foldl childrenAfter []

/-- The numbers of the children. -/
def numbers (h : History) : List Pid :=
  h.children.map Child.pid

/-- How a child has ended, after one more event.  A number that is used again starts afresh. -/
def fateAfter (pid : Pid) (fate : Option Ending) : Event → Option Ending
  | .forked _ other => if other = pid then none else fate
  | .ended other how => if other = pid then some how else fate
  | _ => fate

/-- How the child that was made last under a number has ended, if it has. -/
def fate (h : History) (pid : Pid) : Option Ending :=
  h.foldl (fateAfter pid) none

/-- Whether a child has been sent the signal that nothing survives, after one more event. -/
def condemnedAfter (pid : Pid) (condemned : Bool) : Event → Bool
  | .forked _ other => if other = pid then false else condemned
  | .signalled other .kill => if other = pid then true else condemned
  | _ => condemned

/-- Whether the child that was made last under a number has been sent the signal that nothing survives. -/
def condemned (h : History) (pid : Pid) : Bool :=
  h.foldl (condemnedAfter pid) false

/-- Whether a number stands for no child that could run on for ever: none to be collected, one that has been
sent the signal that nothing survives, or one that has ended. -/
def IsDoomed (h : History) (pid : Pid) : Prop :=
  pid ∈ h.numbers → h.condemned pid = true ∨ (h.fate pid).isSome = true

/-- How many suspend signals have arrived. -/
def suspensions (h : History) : Nat :=
  h.count .suspended

end History

/-- Whether an answer to a wait agrees with what has happened.  There is nothing to report only while some
child that is asked after is there and none of those has ended; a change hands over such a child with the
word of its ending; a wait fails if it is interrupted, or for want of a child. -/
def WaitAnswer.Fits (h : History) (target : WaitTarget) : WaitAnswer → Prop
  | quiet =>
      (∃ pid ∈ h.numbers, target.admits pid) ∧
        ∀ pid ∈ h.numbers, target.admits pid → h.fate pid = none
  | changed pid word =>
      pid ∈ h.numbers ∧ target.admits pid ∧ ∃ how, h.fate pid = some how ∧ word = how.word
  | failed reason =>
      reason = Errno.interrupted ∨
        reason = Errno.noChild ∧ ∀ pid ∈ h.numbers, ¬ target.admits pid

/-- Whether an event can come next.  Only a child that is still running can end, and a new child has a
number that no child to be collected has. -/
def Event.Fits (h : History) : Event → Prop
  | ended pid _ => pid ∈ h.numbers ∧ h.fate pid = none
  | forked _ pid => pid ∉ h.numbers
  | polled target answer => answer.Fits h target
  | awaited pid answer => answer ≠ .quiet ∧ answer.Fits h (.only pid)
  | counted seen => seen = UInt64.ofNat h.suspensions
  | suspended | signalled _ _ | moved _ | wrote _ _ => True

namespace History

/-- Whether events can follow a history one after the other. -/
def Proper (h : History) : List Event → Prop
  | [] => True
  | event :: later => event.Fits h ∧ Proper (h ++ [event]) later

end History

/-- One history leads to another by certain calls of the shell, with whatever the system does by itself
before, between and after them. -/
def Passage (h : History) (calls : List Event) (h' : History) : Prop :=
  ∃ happened, h' = h ++ happened ∧ h.Proper happened ∧ happened.filter Event.isCall = calls

/-! ### Children

Only what makes or collects a child changes the children, so what the system does by itself leaves them as
they are. -/

namespace History

variable {h : History} {pid : Pid} {how : Ending}

@[simp] theorem children_append (h later : History) :
    (h ++ later).children = later.foldl childrenAfter h.children := by
  simp [children, List.foldl_append]

/-- An event that neither makes nor collects a child leaves the children as they are. -/
theorem childrenAfter_of_isPlain {event : Event} (plain : event.IsPlain) (children : List Child) :
    childrenAfter children event = children := by
  obtain ⟨makes, collects⟩ := plain
  cases event with
  | forked plan pid => simp [Event.makes] at makes
  | polled target answer => cases answer <;> simp_all [childrenAfter, Event.collects, WaitAnswer.collects]
  | awaited pid answer => cases answer <;> simp_all [childrenAfter, Event.collects, WaitAnswer.collects]
  | _ => rfl

theorem foldl_childrenAfter_of_isPlain {events : List Event}
    (plain : ∀ event ∈ events, event.IsPlain) (children : List Child) :
    events.foldl childrenAfter children = children := by
  induction events generalizing children with
  | nil => rfl
  | cons event later ih =>
      rw [List.foldl_cons, childrenAfter_of_isPlain (plain event List.mem_cons_self)]
      exact ih (fun call member => plain call (List.mem_cons_of_mem _ member)) children

/-- An event that collects a child takes it off the children. -/
theorem childrenAfter_of_collects {event : Event} (collects : event.collects = some pid)
    (children : List Child) :
    childrenAfter children event = children.filter (·.pid != pid) := by
  cases event with
  | polled target answer => cases answer <;> simp_all [childrenAfter, Event.collects, WaitAnswer.collects]
  | awaited other answer => cases answer <;> simp_all [childrenAfter, Event.collects, WaitAnswer.collects]
  | _ => simp [Event.collects] at collects

/-- What the system does by itself leaves the children as they are. -/
theorem childrenAfter_of_not_isCall {event : Event} (own : event.isCall = false)
    (children : List Child) : childrenAfter children event = children := by
  cases event <;> simp_all [childrenAfter, Event.isCall]

/-- The children depend on the calls of the shell alone. -/
theorem foldl_childrenAfter_filter (events : List Event) (children : List Child) :
    (events.filter Event.isCall).foldl childrenAfter children =
      events.foldl childrenAfter children := by
  induction events generalizing children with
  | nil => rfl
  | cons event later ih =>
      cases call : event.isCall with
      | true => simp [call, ih]
      | false => simp [call, ih, childrenAfter_of_not_isCall call]

/-- A collection takes one number away and no other. -/
theorem map_pid_filter (children : List Child) (pid : Pid) :
    (children.filter (·.pid != pid)).map Child.pid =
      (children.map Child.pid).filter (· != pid) := by
  rw [List.filter_map]
  rfl

/-! ### Fates -/

@[simp] theorem fate_append (h later : History) (pid : Pid) :
    (h ++ later).fate pid = later.foldl (fateAfter pid) (h.fate pid) := by
  simp [fate, List.foldl_append]

/-- A fate that is known at the end was known at the start, or its event lies in between. -/
theorem mem_of_foldl_fateAfter {events : List Event} {start : Option Ending}
    (known : events.foldl (fateAfter pid) start = some how) :
    start = some how ∨ .ended pid how ∈ events := by
  induction events generalizing start with
  | nil => exact .inl known
  | cons event later ih =>
      rcases ih known with before | after
      · cases event with
        | ended other ending =>
            by_cases same : other = pid
            · simp_all [fateAfter]
            · exact .inl (by simpa [fateAfter, same] using before)
        | forked plan other =>
            by_cases same : other = pid
            · simp [fateAfter, same] at before
            · exact .inl (by simpa [fateAfter, same] using before)
        | _ => exact .inl before
      · exact .inr (List.mem_cons_of_mem _ after)

/-- A child that has ended did so after it was made. -/
theorem mem_of_fate_of_forked {plan : LaunchPlan} {later : History}
    (known : (h ++ .forked plan pid :: later).fate pid = some how) : .ended pid how ∈ later := by
  rw [fate_append, List.foldl_cons] at known
  rcases mem_of_foldl_fateAfter known with impossible | member
  · simp [fateAfter] at impossible
  · exact member

/-- A fate stays as it is until the number is used again. -/
theorem fate_concat_of_some {event : Event} (fits : event.Fits h) (fresh : event.makes ≠ some pid)
    (known : h.fate pid = some how) : (h ++ [event]).fate pid = some how := by
  cases event with
  | ended other ending =>
      by_cases same : other = pid
      · simp_all [Event.Fits]
      · simpa [fateAfter, same] using known
  | forked plan other =>
      have different : other ≠ pid := fun same => fresh (by simp [Event.makes, same])
      simpa [fateAfter, different] using known
  | _ => simpa [fateAfter] using known

/-- A number that is not used again keeps its child, or loses it. -/
theorem mem_numbers_of_mem_concat {event : Event} (fresh : event.makes ≠ some pid)
    (member : pid ∈ (h ++ [event]).numbers) : pid ∈ h.numbers := by
  cases made : event.makes with
  | some other =>
      cases event <;> simp [Event.makes] at made
      subst made
      simp only [numbers, children_append, List.foldl_cons, List.foldl_nil, childrenAfter,
        List.map_append, List.map_cons, List.map_nil, List.mem_append, List.mem_singleton] at member
      rcases member with before | rfl
      · exact before
      · exact absurd rfl fresh
  | none =>
      cases collected : event.collects with
      | none => simpa [numbers, childrenAfter_of_isPlain ⟨made, collected⟩] using member
      | some other =>
          simp only [numbers, children_append, List.foldl_cons, List.foldl_nil,
            childrenAfter_of_collects collected, map_pid_filter] at member
          exact (List.mem_filter.1 member).1

/-- A child that is handed over was one of the children. -/
theorem mem_numbers_of_collects {event : Event} (fits : event.Fits h)
    (collects : event.collects = some pid) : pid ∈ h.numbers := by
  cases event with
  | polled target answer =>
      cases answer <;> simp [Event.collects, WaitAnswer.collects] at collects
      exact collects ▸ fits.1
  | awaited other answer =>
      cases answer <;> simp [Event.collects, WaitAnswer.collects] at collects
      exact collects ▸ fits.2.1
  | _ => simp [Event.collects] at collects

/-- A child that is handed over is none of the children any more. -/
theorem not_mem_numbers_of_collects {event : Event} (collects : event.collects = some pid) :
    pid ∉ (h ++ [event]).numbers := by
  simp [numbers, childrenAfter_of_collects collects]

/-- A child that is not handed over stays. -/
theorem mem_numbers_concat {event : Event} (kept : event.collects ≠ some pid)
    (there : pid ∈ h.numbers) : pid ∈ (h ++ [event]).numbers := by
  cases made : event.makes with
  | some other =>
      cases event <;> simp [Event.makes] at made
      simp only [numbers, children_append, List.foldl_cons, List.foldl_nil, childrenAfter,
        List.map_append, List.mem_append]
      exact .inl there
  | none =>
      cases collected : event.collects with
      | none => simpa [numbers, childrenAfter_of_isPlain ⟨made, collected⟩] using there
      | some other =>
          simp only [numbers, children_append, List.foldl_cons, List.foldl_nil,
            childrenAfter_of_collects collected, map_pid_filter]
          have different : other ≠ pid := fun same => kept (by rw [collected, same])
          exact List.mem_filter.2 ⟨there, by simpa using different.symm⟩

/-- A condemned child stays condemned until its number is used again. -/
theorem condemned_concat {event : Event} (fresh : event.makes ≠ some pid)
    (before : h.condemned pid = true) : (h ++ [event]).condemned pid = true := by
  have here : h.foldl (condemnedAfter pid) false = true := before
  cases event with
  | forked plan other =>
      have different : other ≠ pid := fun same => fresh (by simp [Event.makes, same])
      simp [condemned, condemnedAfter, different, here]
  | signalled other signal => cases signal <;> simp [condemned, condemnedAfter, here]
  | _ => simp [condemned, condemnedAfter, here]

/-- A doomed child stays doomed until its number is used again. -/
theorem isDoomed_concat {event : Event} (fits : event.Fits h) (fresh : event.makes ≠ some pid)
    (doomed : h.IsDoomed pid) : (h ++ [event]).IsDoomed pid := by
  intro member
  rcases doomed (mem_numbers_of_mem_concat fresh member) with sent | ended
  · exact .inl (condemned_concat fresh sent)
  · obtain ⟨how, known⟩ := Option.isSome_iff_exists.1 ended
    exact .inr (by rw [fate_concat_of_some fits fresh known]; rfl)

/-- Nothing survives the signal that kills. -/
theorem isDoomed_of_signalled (h : History) (pid : Pid) :
    History.IsDoomed (h ++ [.signalled pid .kill]) pid :=
  fun _ => .inl (by simp [condemned, condemnedAfter])

/-! ### Proper histories -/

theorem proper_append {h : History} {first second : List Event} :
    h.Proper (first ++ second) ↔ h.Proper first ∧ (h ++ first).Proper second := by
  induction first generalizing h with
  | nil => simp [Proper]
  | cons event later ih => simp [Proper, ih, and_assoc]

/-- Every event of a proper history agrees with what stands before it. -/
theorem Proper.fits {events before after : List Event} {event : Event} (proper : h.Proper events)
    (split : events = before ++ event :: after) : event.Fits (h ++ before) := by
  subst split
  exact (proper_append.1 proper).2.1

end History

/-! ### Passages -/

namespace Passage

variable {h g h' : History} {calls : List Event}

theorem refl (h : History) : Passage h [] h :=
  ⟨[], by simp [History.Proper]⟩

/-- The calls of a passage are those among its events. -/
theorem filter_eq {events : List Event} (passage : Passage h calls h')
    (happened : h' = h ++ events) : events.filter Event.isCall = calls := by
  obtain ⟨between, rfl, -, rfl⟩ := passage
  rw [List.append_cancel_left happened]

/-- The calls of a passage are known from its two ends. -/
theorem calls_unique {other : List Event} (passage : Passage h calls h') (again : Passage h other h') :
    other = calls := by
  obtain ⟨between, rfl, -, rfl⟩ := passage
  exact (again.filter_eq rfl).symm

/-- What happens first in a proper history is a passage by its calls. -/
theorem of_proper {before after : List Event} (proper : h.Proper (before ++ after)) :
    Passage h (before.filter Event.isCall) (h ++ before) :=
  ⟨before, rfl, (History.proper_append.1 proper).1, rfl⟩

/-- What the system does by itself is a passage without calls. -/
theorem of_own {happened : List Event} (proper : h.Proper happened)
    (own : ∀ event ∈ happened, event.isCall = false) : Passage h [] (h ++ happened) :=
  ⟨happened, rfl, proper, List.filter_eq_nil_iff.2 fun event member => by simp [own event member]⟩

/-- A single event that fits is a passage. -/
theorem single (event : Event) (fits : event.Fits h) :
    Passage h ([event].filter Event.isCall) (h ++ [event]) :=
  ⟨[event], rfl, ⟨fits, trivial⟩, rfl⟩

theorem trans {more : List Event} (first : Passage h calls g) (second : Passage g more h') :
    Passage h (calls ++ more) h' := by
  obtain ⟨before, rfl, properBefore, rfl⟩ := first
  obtain ⟨after, rfl, properAfter, rfl⟩ := second
  exact ⟨before ++ after, by simp, History.proper_append.2 ⟨properBefore, properAfter⟩, by simp⟩

/-- A passage by two rows of calls rests between them. -/
theorem split {more : List Event} (passage : Passage h (calls ++ more) h') :
    ∃ g, Passage h calls g ∧ Passage g more h' := by
  obtain ⟨happened, rfl, proper, filtered⟩ := passage
  obtain ⟨before, after, rfl, first, second⟩ := List.filter_eq_append_iff.1 filtered
  obtain ⟨properBefore, properAfter⟩ := History.proper_append.1 proper
  exact ⟨h ++ before, ⟨before, rfl, properBefore, first⟩, ⟨after, by simp, properAfter, second⟩⟩

/-- A passage by a row of calls comes to the moment of the first one, which fits there. -/
theorem cons {event : Event} (passage : Passage h (event :: calls) h') :
    ∃ g, Passage h [] g ∧ event.Fits g ∧ Passage (g ++ [event]) calls h' := by
  obtain ⟨happened, rfl, proper, filtered⟩ := passage
  obtain ⟨before, after, rfl, others, own, rest⟩ := List.filter_eq_cons_iff.1 filtered
  obtain ⟨properBefore, fits, properAfter⟩ := History.proper_append.1 proper
  refine ⟨h ++ before, ⟨before, rfl, properBefore, ?_⟩, fits, ⟨after, by simp, properAfter, rest⟩⟩
  exact List.filter_eq_nil_iff.2 others

/-- The children at the end of a passage are those that the calls leave. -/
theorem children_eq (passage : Passage h calls h') :
    h'.children = calls.foldl History.childrenAfter h.children := by
  obtain ⟨happened, rfl, -, rfl⟩ := passage
  rw [History.children_append, History.foldl_childrenAfter_filter]

/-- Calls that neither make nor collect a child leave the numbers as they are. -/
theorem numbers_eq_of_isPlain (passage : Passage h calls h')
    (plain : ∀ call ∈ calls, call.IsPlain) : h'.numbers = h.numbers := by
  rw [History.numbers, passage.children_eq, History.foldl_childrenAfter_of_isPlain plain,
    History.numbers]

/-- Without calls the children stay as they are. -/
theorem children_eq_of_nil (passage : Passage h [] h') : h'.children = h.children :=
  passage.children_eq

/-- Without calls the numbers stay as they are. -/
theorem numbers_eq_of_nil (passage : Passage h [] h') : h'.numbers = h.numbers :=
  passage.numbers_eq_of_isPlain (by simp)

/-- A first call that neither makes nor collects a child leaves the children to the others as they are. -/
theorem tail {event : Event} (passage : Passage h (event :: calls) h') (plain : event.IsPlain) :
    ∃ g, g.children = h.children ∧ Passage g calls h' := by
  obtain ⟨g, before, -, after⟩ := passage.cons
  refine ⟨g ++ [event], ?_, after⟩
  simp [History.childrenAfter_of_isPlain plain, before.children_eq_of_nil]

/-- A child that is made first has a number that no child to be collected has. -/
theorem not_mem_of_forked {plan : LaunchPlan} {pid : Pid}
    (passage : Passage h (.forked plan pid :: calls) h') : pid ∉ h.numbers := by
  obtain ⟨g, before, fits, -⟩ := passage.cons
  rw [← before.numbers_eq_of_nil]
  exact fits

/-- Calls that make no child leave none that was not there before. -/
theorem children_sublist (passage : Passage h calls h') (barren : ∀ call ∈ calls, call.makes = none) :
    h'.children.Sublist h.children := by
  rw [passage.children_eq]
  clear passage
  generalize h.children = children
  induction calls generalizing children with
  | nil => exact .refl _
  | cons call later ih =>
      have first : (History.childrenAfter children call).Sublist children := by
        cases collected : call.collects with
        | none =>
            simp [History.childrenAfter_of_isPlain ⟨barren call List.mem_cons_self, collected⟩]
        | some pid =>
            rw [History.childrenAfter_of_collects collected]
            exact List.filter_sublist
      exact (ih (fun event member => barren event (List.mem_cons_of_mem _ member)) _).trans first

/-- What every event that may occur keeps is kept by a passage. -/
theorem keeps (Keeps : History → Prop) (May : Event → Prop) (passage : Passage h calls h')
    (may : ∀ call ∈ calls, May call) (own : ∀ event, event.isCall = false → May event)
    (step : ∀ {g : History} {event : Event}, event.Fits g → May event → Keeps g →
      Keeps (g ++ [event]))
    (start : Keeps h) : Keeps h' := by
  obtain ⟨happened, rfl, proper, rfl⟩ := passage
  induction happened generalizing h with
  | nil => simpa using start
  | cons event later ih =>
      have here : May event := by
        cases call : event.isCall with
        | true => exact may event (by simp [call])
        | false => exact own event call
      have after : ∀ call ∈ later.filter Event.isCall, May call := by
        intro call member
        exact may call (List.mem_filter.2
          ⟨List.mem_cons_of_mem _ (List.mem_filter.1 member).1, (List.mem_filter.1 member).2⟩)
      simpa using ih (h := h ++ [event]) (step proper.1 here start) proper.2 after

/-- What the system does by itself makes and collects no child. -/
theorem isPlain_of_not_isCall {event : Event} (own : event.isCall = false) : event.IsPlain := by
  cases event <;> simp_all [Event.isCall, Event.makes, Event.collects, Event.IsPlain]

/-- What the system does by itself makes no child. -/
theorem makes_ne_of_not_isCall {event : Event} (own : event.isCall = false) (pid : Pid) :
    event.makes ≠ some pid := by
  simp [(isPlain_of_not_isCall own).1]

/-- A fate stays as it is unless one of the calls uses the number again. -/
theorem fate_eq_of_some {pid : Pid} {how : Ending} (passage : Passage h calls h')
    (fresh : ∀ call ∈ calls, call.makes ≠ some pid) (known : h.fate pid = some how) :
    h'.fate pid = some how :=
  passage.keeps (fun g => g.fate pid = some how) (fun event => event.makes ≠ some pid) fresh
    (fun _ own => makes_ne_of_not_isCall own pid)
    (fun fits here before => History.fate_concat_of_some fits here before) known

/-- A number without a child gets one only by a call that makes it. -/
theorem not_mem {pid : Pid} (passage : Passage h calls h')
    (fresh : ∀ call ∈ calls, call.makes ≠ some pid) (absent : pid ∉ h.numbers) : pid ∉ h'.numbers :=
  passage.keeps (fun g => pid ∉ g.numbers) (fun event => event.makes ≠ some pid) fresh
    (fun _ own => makes_ne_of_not_isCall own pid)
    (fun _ here before after => before (History.mem_numbers_of_mem_concat here after)) absent

/-- A number keeps its child unless one of the calls collects it. -/
theorem mem {pid : Pid} (passage : Passage h calls h')
    (kept : ∀ call ∈ calls, call.collects ≠ some pid) (there : pid ∈ h.numbers) :
    pid ∈ h'.numbers :=
  passage.keeps (fun g => pid ∈ g.numbers) (fun event => event.collects ≠ some pid) kept
    (fun _ own => by simp [(isPlain_of_not_isCall own).2])
    (fun _ here before => History.mem_numbers_concat here before) there

/-- Calls that make no child collect each at most once, and those that they collect are there before and
not after. -/
theorem collected_once (passage : Passage h calls h') (pid : Pid)
    (barren : ∀ call ∈ calls, call.makes = none) :
    (∃ call, calls.filter (·.collects == some pid) = [call] ∧ pid ∈ h.numbers ∧ pid ∉ h'.numbers) ∨
      (calls.filter (·.collects == some pid) = [] ∧ (pid ∈ h'.numbers ↔ pid ∈ h.numbers)) := by
  induction calls generalizing h with
  | nil => exact .inr ⟨rfl, by rw [passage.numbers_eq_of_nil]⟩
  | cons event later ih =>
      obtain ⟨g, before, fits, after⟩ := passage.cons
      rw [← before.numbers_eq_of_nil]
      have barrenLater : ∀ call ∈ later, call.makes = none := fun call member =>
        barren call (List.mem_cons_of_mem _ member)
      by_cases collects : event.collects = some pid
      · have gone := History.not_mem_numbers_of_collects (h := g) collects
        rcases ih after barrenLater with ⟨call, -, there, -⟩ | ⟨others, same⟩
        · exact absurd there gone
        · refine .inl ⟨event, ?_, History.mem_numbers_of_collects fits collects, ?_⟩
          · rw [List.filter_cons_of_pos (by simpa using collects), others]
          · rwa [same]
      · have same : pid ∈ (g ++ [event]).numbers ↔ pid ∈ g.numbers := by
          have made := barren event List.mem_cons_self
          exact ⟨History.mem_numbers_of_mem_concat (by simp [made]),
            History.mem_numbers_concat collects⟩
        rw [List.filter_cons_of_neg (by simpa using collects), ← same]
        exact ih after barrenLater

/-- A doomed child stays doomed unless one of the calls uses its number again. -/
theorem isDoomed {pid : Pid} (passage : Passage h calls h')
    (fresh : ∀ call ∈ calls, call.makes ≠ some pid) (doomed : h.IsDoomed pid) : h'.IsDoomed pid :=
  passage.keeps (fun g => g.IsDoomed pid) (fun event => event.makes ≠ some pid) fresh
    (fun _ own => makes_ne_of_not_isCall own pid)
    (fun fits here before => History.isDoomed_concat fits here before) doomed

end Passage

end JobShell
