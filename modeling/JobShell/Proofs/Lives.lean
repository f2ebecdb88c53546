/-
Module: JobShell.Proofs.Lives
Purpose: What an operation does and says about the child of one number.  A line may begin a life, in the
  foreground or in the background; a sweep or a shutdown may end the life of a background child; nothing else
  concerns it.  A run is for each number a row of such lives, of which only the last may still go on.
Main exports: Event.concerns, Beginning, Farewell, Deed.concern, Lives, Session.lives, Life, Lives.life
-/
import JobShell.Proofs.Lines
import JobShell.Proofs.Session
import Mathlib.Data.List.TakeWhile

namespace JobShell

/-- Whether an event makes or collects the child of a number, or is a line about it. -/
def Event.concerns (pid : Pid) (event : Event) : Bool :=
  event.makes == some pid || event.collects == some pid || event.tells pid

/-- What concerns a child from after it is made to the end of the line that made it, and whether it is still
to be collected then. -/
inductive Beginning (pid : Pid) (plan : LaunchPlan) : Bool → List Event → Prop where
  | front (how : Ending) (front : plan.foreground = true) :
      Beginning pid plan false [.awaited pid (.changed pid how.word)]
  | running (behind : plan.foreground = false) : Beginning pid plan true [.announcement pid]
  | prompt (how : Ending) (behind : plan.foreground = false) (named : how.isNamed = true) :
      Beginning pid plan false
        [.polled (.only pid) (.changed pid how.word), .announcement pid, .report ⟨pid, how.status⟩]

/-- What concerns a background child when it is collected later on. -/
inductive Farewell (pid : Pid) : Operation → List Event → Prop where
  | swept (how : Ending) (named : how.isNamed = true) :
      Farewell pid .reportFinished [.polled .any (.changed pid how.word), .report ⟨pid, how.status⟩]
  | stopped {event : Event} (collects : event.collects = some pid) (silent : event.tells pid = false) :
      Farewell pid .shutdown [event]

/-! ### Which events concern a child -/

namespace Event

variable {pid other : Pid} {event : Event}

/-- What the system does by itself concerns nobody. -/
theorem concerns_of_not_isCall (own : event.isCall = false) : event.concerns pid = false := by
  cases event <;>
    simp_all [isCall, concerns, makes, collects, tells, announces, announcement, said, reports]

/-- What is not written is no line. -/
theorem tells_eq_false (unwritten : ∀ stream text, event ≠ .wrote stream text) :
    event.tells pid = false := by
  cases event with
  | wrote stream text => exact absurd rfl (unwritten stream text)
  | _ => simp [tells, announces, announcement, said, reports]

theorem tells_announcement : (announcement other).tells pid = (other == pid) := by
  rw [tells, reports_announcement, Bool.or_false, Bool.eq_iff_iff, announces_announcement, beq_iff_eq]

theorem tells_report {child : Collected} : (report child).tells pid = (child.pid == pid) := by
  rw [tells, announces_report, Bool.false_or, Bool.eq_iff_iff, reports_report, beq_iff_eq]

/-- What is said concerns a child only if it is a line about it. -/
theorem concerns_said (line : String) : (said line).concerns pid = (said line).tells pid := by
  simp [concerns, said, makes, collects]

theorem concerns_announcement : (announcement other).concerns pid = (other == pid) := by
  rw [announcement, concerns_said, ← announcement, tells_announcement]

theorem concerns_report {child : Collected} : (report child).concerns pid = (child.pid == pid) := by
  rw [report, concerns_said, ← report, tells_report]

/-- What is not written concerns a child only if it makes or collects it. -/
theorem concerns_eq_of_unwritten (unwritten : ∀ stream text, event ≠ .wrote stream text) :
    event.concerns pid = (event.makes == some pid || event.collects == some pid) := by
  rw [concerns, tells_eq_false unwritten, Bool.or_false]

theorem concerns_forked {plan : LaunchPlan} : (forked plan other).concerns pid = (other == pid) := by
  simp [concerns_eq_of_unwritten, makes, collects]

theorem concerns_polled {target : WaitTarget} {answer : WaitAnswer} :
    (polled target answer).concerns pid = (answer.collects == some pid) := by
  simp [concerns_eq_of_unwritten, makes, collects]

theorem concerns_awaited {answer : WaitAnswer} :
    (awaited other answer).concerns pid = (answer.collects == some pid) := by
  simp [concerns_eq_of_unwritten, makes, collects]

theorem concerns_counted {seen : UInt64} : (counted seen).concerns pid = false := by
  simp [concerns_eq_of_unwritten, makes, collects]

theorem concerns_moved {path : Text.Bytes} : (moved path).concerns pid = false := by
  simp [concerns_eq_of_unwritten, makes, collects]

end Event

/-- The calls are all that concerns a child. -/
theorem filter_concerns_filter (events : List Event) (pid : Pid) :
    (events.filter Event.isCall).filter (Event.concerns pid) = events.filter (Event.concerns pid) := by
  rw [List.filter_filter]
  refine List.filter_congr fun event _ => ?_
  cases call : event.isCall with
  | true => simp
  | false => simp [Event.concerns_of_not_isCall call]

theorem filter_concerns_waits (pid other : Pid) (interruptions : Nat) (word : Int) :
    (waits other interruptions (.changed other word)).filter (Event.concerns pid) =
      if other = pid then [.awaited other (.changed other word)] else [] := by
  rw [waits, List.filter_append, List.filter_replicate]
  by_cases same : other = pid
  · subst same
    simp [Event.concerns_awaited, WaitAnswer.collects]
  · simp [Event.concerns_awaited, WaitAnswer.collects, same]

theorem filter_concerns_modeReport (pid : Pid) (reported seen : UInt64) :
    (modeReport reported seen).filter (Event.concerns pid) = [] := by
  refine List.filter_eq_nil_iff.2 fun event member => ?_
  rcases List.mem_cons.1 member with rfl | told
  · simp [Event.concerns_counted]
  · obtain ⟨mode, -, rfl⟩ := List.mem_map.1 told
    simp [Event.concerns_said, Event.tells_notice]

theorem filter_concerns_deathNotice (pid : Pid) (status : Termination) :
    (deathNotice status).filter (Event.concerns pid) = [] := by
  cases status with
  | exited code => rfl
  | signaled signal => simp [deathNotice, Event.concerns_said, Event.tells_status]

/-- A word that cannot be read is not legible. -/
theorem not_isLegible {how : Ending} (nameless : how.isNamed = false) (pid : Pid) :
    (Event.awaited pid (.changed pid how.word)).isLegible = false ∧
      (Event.polled (.only pid) (.changed pid how.word)).isLegible = false := by
  simp [Event.isLegible, how.decode_word_of_not_isNamed nameless]

/-- A launch begins the life of the child it makes and concerns no other. -/
theorem Launched.concerns {state state' : ShellState} {calls : List Event}
    (launched : Launched state calls state') (legible : ∀ call ∈ calls, call.isLegible = true)
    (pid : Pid) :
    calls.filter (Event.concerns pid) = [] ∨
      ∃ plan still rest later, Beginning pid plan still rest ∧ calls = .forked plan pid :: later ∧
        calls.filter (Event.concerns pid) = .forked plan pid :: rest := by
  cases launched with
  | refused => exact .inl rfl
  | @waited plan other how interruptions reported seen front named =>
      by_cases same : other = pid
      · subst same
        refine .inr ⟨plan, false, _, _, .front how front, rfl, ?_⟩
        simp [Event.concerns_forked, filter_concerns_waits, filter_concerns_deathNotice,
          filter_concerns_modeReport]
      · refine .inl ?_
        simp [Event.concerns_forked, filter_concerns_waits, filter_concerns_deathNotice,
          filter_concerns_modeReport, same]
  | lost other how interruptions front nameless =>
      have read := legible (.awaited other (.changed other how.word)) (by simp [waits])
      simp [not_isLegible nameless] at read
  | @running plan answer other behind still =>
      by_cases same : other = pid
      · subst same
        refine .inr ⟨plan, true, _, _, .running behind, rfl, ?_⟩
        simp [Event.concerns_forked, Event.concerns_polled, Event.concerns_announcement, still]
      · refine .inl ?_
        simp [Event.concerns_forked, Event.concerns_polled, Event.concerns_announcement, still, same]
  | @prompt plan other how behind named =>
      by_cases same : other = pid
      · subst same
        refine .inr ⟨plan, false, _, _, .prompt how behind named, rfl, ?_⟩
        simp [Event.concerns_forked, Event.concerns_polled, Event.concerns_announcement,
          Event.concerns_report, WaitAnswer.collects]
      · refine .inl ?_
        simp [Event.concerns_forked, Event.concerns_polled, Event.concerns_announcement,
          Event.concerns_report, WaitAnswer.collects, same]
  | unread other how behind nameless =>
      have read := legible (.polled (.only other) (.changed other how.word)) (by simp)
      simp [not_isLegible nameless] at read

/-! ### Sweeps and stops -/

/-- A sweep returns of one number what it collects of that number. -/
theorem Swept.filter_returned {calls : List Event} {collected : List Collected}
    (swept : Swept calls collected) (pid : Pid) :
    collected.filter (·.pid == pid) =
      (calls.filter (·.collects == some pid)).filterMap Event.returned := by
  induction swept with
  | quiet => rfl
  | alone => rfl
  | unreadable other how nameless =>
      by_cases same : other = pid <;>
        simp [Event.collects, WaitAnswer.collects, same, Event.returned,
          how.decode_word_of_not_isNamed nameless]
  | interrupted later ih => simpa [Event.collects, WaitAnswer.collects] using ih
  | returned other how named later ih =>
      by_cases same : other = pid <;>
        simp [Event.collects, WaitAnswer.collects, same, Event.returned,
          how.decode_word_of_isNamed named, ih]

/-- What a sweep collects it collects with the word of an ending. -/
theorem Swept.word_of_mem {calls : List Event} {collected : List Collected}
    (swept : Swept calls collected) {call : Event} {pid : Pid} (member : call ∈ calls)
    (collects : call.collects = some pid) :
    ∃ how : Ending, call = .polled .any (.changed pid how.word) := by
  induction swept with
  | quiet => simp [List.mem_singleton.1 member, Event.collects, WaitAnswer.collects] at collects
  | alone => simp [List.mem_singleton.1 member, Event.collects, WaitAnswer.collects] at collects
  | unreadable other how nameless =>
      obtain rfl := List.mem_singleton.1 member
      obtain rfl : other = pid := by simpa [Event.collects, WaitAnswer.collects] using collects
      exact ⟨how, rfl⟩
  | interrupted later ih =>
      rcases List.mem_cons.1 member with rfl | inside
      · simp [Event.collects, WaitAnswer.collects] at collects
      · exact ih inside
  | returned other how named later ih =>
      rcases List.mem_cons.1 member with rfl | inside
      · obtain rfl : other = pid := by simpa [Event.collects, WaitAnswer.collects] using collects
        exact ⟨how, rfl⟩
      · exact ih inside

/-- Of a sweep and the reports after it a child is concerned by being collected and then reported, or not at
all. -/
theorem Swept.concerns {calls : List Event} {collected : List Collected} {h h' : History}
    (swept : Swept calls collected) (passage : Passage h calls h')
    (legible : ∀ call ∈ calls, call.isLegible = true) (pid : Pid) :
    (pid ∈ h.numbers ∧
        Farewell pid .reportFinished
          ((calls ++ collected.map Event.report).filter (Event.concerns pid))) ∨
      (calls ++ collected.map Event.report).filter (Event.concerns pid) = [] := by
  have asked : calls.filter (Event.concerns pid) = calls.filter (·.collects == some pid) := by
    refine List.filter_congr fun call member => ?_
    obtain ⟨answer, rfl⟩ := swept.mem member
    rw [Event.concerns_polled]
    simp [Event.collects]
  have told : (collected.map Event.report).filter (Event.concerns pid) =
      (collected.filter (·.pid == pid)).map Event.report := by
    rw [List.filter_map]
    exact congrArg _ (List.filter_congr fun child _ => Event.concerns_report)
  rw [List.filter_append, asked, told, swept.filter_returned pid]
  rcases passage.collected_once pid swept.makes with ⟨call, only, there, -⟩ | ⟨none, -⟩
  · have member : call ∈ calls.filter (·.collects == some pid) := by simp [only]
    obtain ⟨inside, collects⟩ := List.mem_filter.1 member
    obtain ⟨how, rfl⟩ := swept.word_of_mem inside (by simpa using collects)
    have named : how.isNamed = true := by
      cases named : how.isNamed with
      | true => rfl
      | false =>
          have read := legible _ inside
          simp [Event.isLegible, how.decode_word_of_not_isNamed named] at read
    refine .inl ⟨there, ?_⟩
    simpa [only, Event.returned, how.decode_word_of_isNamed named] using Farewell.swept how named
  · exact .inr (by simp [none])

/-- Of a stop a child is concerned by being collected, or not at all. -/
theorem Stopped.concerns {pids : List Pid} {calls : List Event} {h h' : History}
    (stopped : Stopped pids calls) (passage : Passage h calls h') (pid : Pid) :
    (pid ∈ h.numbers ∧ Farewell pid .shutdown (calls.filter (Event.concerns pid))) ∨
      calls.filter (Event.concerns pid) = [] := by
  have silent : ∀ call ∈ calls, call.tells pid = false := by
    intro call member
    rcases stopped.mem member with ⟨_, -, _, rfl⟩ | ⟨_, _, rfl | rfl, -⟩ <;>
      exact Event.tells_eq_false (by simp)
  have asked : calls.filter (Event.concerns pid) = calls.filter (·.collects == some pid) := by
    refine List.filter_congr fun call member => ?_
    simp [Event.concerns, stopped.makes call member, silent call member]
  rw [asked]
  rcases passage.collected_once pid stopped.makes with ⟨call, only, there, -⟩ | ⟨none, -⟩
  · have member : call ∈ calls.filter (·.collects == some pid) := by simp [only]
    obtain ⟨inside, collects⟩ := List.mem_filter.1 member
    rw [only]
    exact .inl ⟨there, .stopped (by simpa using collects) (silent call inside)⟩
  · exact .inr none

/-! ### Whether a child is there -/

/-- Whether a child is to be collected, after one more event. -/
def Event.presence (pid : Pid) (there : Bool) (event : Event) : Bool :=
  if event.makes = some pid then true
  else if event.collects = some pid then false
  else there

theorem presence_eq (h : History) (event : Event) (pid : Pid) :
    decide (pid ∈ History.numbers (h ++ [event])) = event.presence pid (decide (pid ∈ h.numbers)) := by
  by_cases made : event.makes = some pid
  · have inside : pid ∈ History.numbers (h ++ [event]) := by
      cases event <;> simp [Event.makes] at made
      simp [History.numbers, History.childrenAfter, made]
    simp [Event.presence, made, inside]
  · by_cases collected : event.collects = some pid
    · have outside := History.not_mem_numbers_of_collects (h := h) collected
      simp [Event.presence, made, collected, outside]
    · have same : pid ∈ History.numbers (h ++ [event]) ↔ pid ∈ h.numbers :=
        ⟨History.mem_numbers_of_mem_concat made, History.mem_numbers_concat collected⟩
      simp [Event.presence, made, collected, same]

/-- What does not concern a child does not change whether it is there. -/
theorem presence_of_not_concerns {event : Event} {pid : Pid} (apart : event.concerns pid = false)
    (there : Bool) : event.presence pid there = there := by
  simp only [Event.concerns, Bool.or_eq_false_iff, beq_eq_false_iff_ne] at apart
  simp [Event.presence, apart.1.1, apart.1.2]

/-- Whether a child is there at the end depends on what concerned it. -/
theorem foldl_presence (h : History) (events : List Event) (pid : Pid) :
    decide (pid ∈ History.numbers (h ++ events)) =
      (events.filter (Event.concerns pid)).foldl (Event.presence pid) (decide (pid ∈ h.numbers)) := by
  induction events generalizing h with
  | nil => simp
  | cons event later ih =>
      have step := ih (h ++ [event])
      rw [List.append_assoc, List.singleton_append] at step
      rw [step, presence_eq]
      cases near : event.concerns pid with
      | true => simp [near]
      | false => simp [near, presence_of_not_concerns near]

theorem Passage.presence {h h' : History} {calls : List Event} (passage : Passage h calls h')
    (pid : Pid) :
    decide (pid ∈ h'.numbers) =
      (calls.filter (Event.concerns pid)).foldl (Event.presence pid) (decide (pid ∈ h.numbers)) := by
  obtain ⟨happened, rfl, -, rfl⟩ := passage
  rw [filter_concerns_filter, foldl_presence]

theorem Beginning.presence {pid : Pid} {plan : LaunchPlan} {still : Bool} {rest : List Event}
    (beginning : Beginning pid plan still rest) :
    (.forked plan pid :: rest).foldl (Event.presence pid) false = still := by
  cases beginning <;>
    simp [Event.presence, Event.makes, Event.collects, WaitAnswer.collects, Event.announcement,
      Event.report, Event.said]

theorem Farewell.presence {pid : Pid} {operation : Operation} {events : List Event}
    (farewell : Farewell pid operation events) : events.foldl (Event.presence pid) true = false := by
  cases farewell with
  | swept how named =>
      simp [Event.presence, Event.makes, Event.collects, WaitAnswer.collects, Event.report, Event.said]
  | @stopped event collects silent =>
      have made : event.makes = none := by
        cases event <;> simp_all [Event.makes, Event.collects]
      simp [Event.presence, made, collects]

/-! ### Operations -/

/-- An operation does not concern a child, or a line begins its life, or it says farewell to it. -/
inductive Concern (pid : Pid) (operation : Operation) : Bool → Bool → List Event → Prop where
  | none (there : Bool) : Concern pid operation there there []
  | beginning {plan : LaunchPlan} {still : Bool} {rest : List Event} (text : String)
      (line : operation = .line text) (beginning : Beginning pid plan still rest) :
      Concern pid operation false still (.forked plan pid :: rest)
  | farewell {events : List Event} (farewell : Farewell pid operation events) :
      Concern pid operation true false events

theorem Deed.concern {state state' : ShellState} {operation : Operation} {calls : List Event}
    {h h' : History} (deed : Deed state operation calls state') (passage : Passage h calls h')
    (legible : ∀ call ∈ calls, call.isLegible = true) (pid : Pid) :
    Concern pid operation (decide (pid ∈ h.numbers)) (decide (pid ∈ h'.numbers))
      (calls.filter (Event.concerns pid)) := by
  have none : calls.filter (Event.concerns pid) = [] →
      Concern pid operation (decide (pid ∈ h.numbers)) (decide (pid ∈ h'.numbers))
        (calls.filter (Event.concerns pid)) := by
    intro nothing
    rw [passage.presence pid, nothing]
    exact .none _
  have farewell : pid ∈ h.numbers → Farewell pid operation (calls.filter (Event.concerns pid)) →
      Concern pid operation (decide (pid ∈ h.numbers)) (decide (pid ∈ h'.numbers))
        (calls.filter (Event.concerns pid)) := by
    intro there leaving
    rw [passage.presence pid, decide_eq_true there, leaving.presence]
    exact .farewell leaving
  cases deed with
  | idle text => exact none rfl
  | moved text path directory => exact none (by simp [Event.concerns_moved])
  | told text => exact none (by simp [Event.concerns_said, Event.tells_status])
  | @launched state' calls text seen launched =>
      have own := launched.concerns (fun call member => legible call (List.mem_cons_of_mem _ member)) pid
      have skipped : (Event.counted seen :: calls).filter (Event.concerns pid) =
          calls.filter (Event.concerns pid) := List.filter_cons_of_neg (by simp [Event.concerns_counted])
      rcases own with nothing | ⟨plan, still, rest, later, beginning, rfl, begun⟩
      · exact none (skipped.trans nothing)
      · have absent : pid ∉ h.numbers := by
          obtain ⟨g, same, after⟩ := passage.tail ⟨rfl, rfl⟩
          rw [History.numbers, ← same]
          exact after.not_mem_of_forked
        rw [passage.presence pid, decide_eq_false absent, skipped, begun, beginning.presence]
        exact .beginning text rfl beginning
  | announced reported seen => exact none (filter_concerns_modeReport pid reported seen)
  | swept swept =>
      obtain ⟨g, sweeping, -⟩ := passage.split
      have read := fun call member => legible call (List.mem_append_left _ member)
      rcases swept.concerns sweeping read pid with ⟨there, leaving⟩ | nothing
      · exact farewell there leaving
      · exact none nothing
  | stopped stopped =>
      rcases stopped.concerns passage pid with ⟨there, leaving⟩ | nothing
      · exact farewell there leaving
      · exact none nothing

/-! ### Runs -/

/-- Something that happened in a run, with the operation in which it did. -/
structure Entry where
  during : Option Operation
  event : Event
deriving Repr, DecidableEq

/-- All that happened in some turns, with the operations in which it did. -/
def record (turns : List Turn) : List Entry :=
  turns.flatMap fun turn => turn.events.map (Entry.mk turn.operation)

/-- What concerns one child, in the order of time: for each operation what it says and does about it. -/
inductive Lives (pid : Pid) : Bool → List Entry → Prop where
  | none : Lives pid false []
  | more {before after : Bool} {entries : List Entry} {operation : Operation} {events : List Event}
      (soFar : Lives pid before entries) (concern : Concern pid operation before after events) :
      Lives pid after (entries ++ events.map (Entry.mk (some operation)))

@[simp] theorem record_concat (turns : List Turn) (turn : Turn) :
    record (turns ++ [turn]) = record turns ++ turn.events.map (Entry.mk turn.operation) := by
  simp [record]

theorem map_event_record (turns : List Turn) : (record turns).map Entry.event = eventsOf turns := by
  simp [record, eventsOf, List.map_flatMap, Function.comp_def]

theorem filter_concerns_map (operation : Option Operation) (events : List Event) (pid : Pid) :
    (events.map (Entry.mk operation)).filter (fun entry => entry.event.concerns pid) =
      (events.filter (Event.concerns pid)).map (Entry.mk operation) := by
  rw [List.filter_map]
  rfl

/-- A run is for each number a row of lives, of which the last goes on exactly if the child is still to be
collected. -/
theorem Session.lives {σ : Type} {k : Kernel σ} {history : σ → History} {first last : Shell σ}
    {turns : List Turn} (faithful : k.Faithful history)
    (childless : (history first.system).children = [])
    (session : Session k history first turns last)
    (legible : ∀ event ∈ eventsOf turns, event.isLegible = true) (pid : Pid) :
    Lives pid (decide (pid ∈ (history last.system).numbers))
      ((record turns).filter fun entry => entry.event.concerns pid) := by
  induction session with
  | start => simpa [History.numbers, childless, record] using Lives.none
  | @perform turns events sh sh' operation soFar performed happened ih =>
      rw [eventsOf_concat] at legible
      obtain ⟨deed, proper⟩ := perform_events faithful performed happened
      have concern := deed.concern ⟨events, happened, proper, rfl⟩ (fun call member =>
        legible call (List.mem_append_right _ (List.mem_filter.1 member).1)) pid
      rw [filter_concerns_filter] at concern
      rw [record_concat, List.filter_append, filter_concerns_map]
      exact .more (ih fun event member => legible event (List.mem_append_left _ member)) concern
  | @meanwhile turns events sh system soFar proper own happened ih =>
      rw [eventsOf_concat] at legible
      have nothing : events.filter (Event.concerns pid) = [] :=
        List.filter_eq_nil_iff.2 fun event member => by
          simp [Event.concerns_of_not_isCall (own event member)]
      have passage : Passage (history sh.system) [] (history system) := happened ▸ .of_own proper own
      rw [record_concat, List.filter_append, filter_concerns_map, nothing, passage.numbers_eq_of_nil]
      simpa using ih fun event member => legible event (List.mem_append_left _ member)

/-- What concerns a child from after it is made on, until its number is used again: the rest of the line, and
a farewell if it ran on and has been collected since. -/
inductive Life (pid : Pid) (plan : LaunchPlan) (text : String) : Bool → List Entry → Prop where
  | begun {still : Bool} {rest : List Event} (beginning : Beginning pid plan still rest) :
      Life pid plan text still (rest.map (Entry.mk (some (.line text))))
  | left {operation : Operation} {rest events : List Event}
      (beginning : Beginning pid plan true rest) (farewell : Farewell pid operation events) :
      Life pid plan text false
        (rest.map (Entry.mk (some (.line text))) ++ events.map (Entry.mk (some operation)))

theorem Beginning.makes {pid : Pid} {plan : LaunchPlan} {still : Bool} {rest : List Event}
    (beginning : Beginning pid plan still rest) : ∀ event ∈ rest, event.makes = none := by
  cases beginning <;> simp [Event.makes, Event.announcement, Event.report, Event.said]

theorem Farewell.makes {pid : Pid} {operation : Operation} {events : List Event}
    (farewell : Farewell pid operation events) : ∀ event ∈ events, event.makes = none := by
  cases farewell with
  | swept how named => simp [Event.makes, Event.report, Event.said]
  | @stopped event collects silent =>
      intro other member
      rw [List.mem_singleton.1 member]
      cases event <;> simp_all [Event.makes, Event.collects]

/-- Whether an entry does not use a number again. -/
def Entry.spares (pid : Pid) (entry : Entry) : Bool :=
  entry.event.makes != some pid

/-- Entries that make nobody spare every number. -/
theorem spares_of_makes (operation : Option Operation) {events : List Event}
    (barren : ∀ event ∈ events, event.makes = none) (pid : Pid) :
    ∀ entry ∈ events.map (Entry.mk operation), entry.spares pid = true := by
  intro entry member
  obtain ⟨event, inside, rfl⟩ := List.mem_map.1 member
  simp [Entry.spares, barren event inside]

/-- A place in two rows lies in the first or in the second. -/
theorem place_in_append {α : Type} {first second before after : List α} {x : α}
    (split : first ++ second = before ++ x :: after) :
    (∃ rest, first = before ++ x :: rest ∧ after = rest ++ second) ∨
      ∃ between, before = first ++ between ∧ second = between ++ x :: after := by
  rcases List.append_eq_append_iff.1 split with ⟨between, same, rest⟩ | ⟨rest, inside, outside⟩
  · exact .inr ⟨between, same, rest⟩
  · cases rest with
    | nil => exact .inr ⟨[], by simpa using inside.symm, by simpa using outside.symm⟩
    | cons y rest =>
        obtain ⟨rfl, rfl⟩ := List.cons.inj outside
        exact .inl ⟨rest, inside, rfl⟩

/-- What is taken of a row up to a failure does not depend on what follows. -/
theorem takeWhile_append_cons {α : Type} {p : α → Bool} {x : α} (failing : p x = false)
    (first second : List α) : (first ++ x :: second).takeWhile p = first.takeWhile p := by
  induction first with
  | nil => simp [failing]
  | cons y rest ih =>
      cases holds : p y with
      | true => simp [holds, ih]
      | false => simp [holds]

theorem takeWhile_append_of_not {α : Type} {p : α → Bool} {first : List α}
    (cut : ¬ ∀ x ∈ first, p x = true) (second : List α) :
    (first ++ second).takeWhile p = first.takeWhile p := by
  have shorter : (first.takeWhile p).length ≠ first.length := fun same =>
    cut (List.takeWhile_eq_self_iff.1 ((List.takeWhile_prefix p).eq_of_length same))
  rw [List.takeWhile_append, if_neg shorter]

/-- A child that is made uses its number again. -/
theorem spares_forked (during : Option Operation) (plan : LaunchPlan) (pid : Pid) :
    Entry.spares pid ⟨during, .forked plan pid⟩ = false := by
  simp [Entry.spares, Event.makes]

section

variable {pid : Pid} {plan : LaunchPlan} {during : Option Operation} {operation : Operation}
  {was is : Bool} {events : List Event} {after : List Entry}

/-- A life that goes on may be ended by an operation; one that has ended stays as it is. -/
theorem Life.more {text : String} {still : Bool} {rest : List Entry}
    (life : Life pid plan text still (rest.takeWhile (Entry.spares pid)))
    (goesOn : (∀ entry ∈ rest, entry.spares pid = true) → still = was)
    (concern : Concern pid operation was is events) :
    ∃ still, Life pid plan text still
        ((rest ++ events.map (Entry.mk (some operation))).takeWhile (Entry.spares pid)) ∧
      ((∀ entry ∈ rest ++ events.map (Entry.mk (some operation)), entry.spares pid = true) →
        still = is) := by
  cases concern with
  | none => exact ⟨still, by simpa using life, by simpa using goesOn⟩
  | @beginning next _ later _ line beginning =>
      -- The number is used again here, so nothing is added to the life before.
      have used := spares_forked (some operation) next pid
      rw [List.map_cons, takeWhile_append_cons used]
      refine ⟨still, life, fun whole => ?_⟩
      have spared := whole ⟨some operation, .forked next pid⟩ (by simp)
      simp [used] at spared
  | farewell farewell =>
      by_cases whole : ∀ entry ∈ rest, entry.spares pid = true
      · -- Only a child that runs on can be said farewell to, so its life has only begun.
        have spared := spares_of_makes (some operation) farewell.makes pid
        rw [List.takeWhile_append_of_pos whole, List.takeWhile_eq_self_iff.2 spared]
        rw [List.takeWhile_eq_self_iff.2 whole] at life
        obtain rfl : still = true := goesOn whole
        cases life with
        | begun beginning => exact ⟨false, .left beginning farewell, fun _ => rfl⟩
      · rw [takeWhile_append_of_not whole]
        refine ⟨still, life, fun all => absurd (fun entry member => ?_) whole⟩
        exact all entry (List.mem_append_left _ member)

/-- An operation in which a child is made begins the life of that child, and does no more about it. -/
theorem Concern.life {between : List Entry} (concern : Concern pid operation was is events)
    (split : events.map (Entry.mk (some operation)) = between ++ ⟨during, .forked plan pid⟩ :: after) :
    ∃ text still, during = some (.line text) ∧
      Life pid plan text still (after.takeWhile (Entry.spares pid)) ∧
      ((∀ entry ∈ after, entry.spares pid = true) → still = is) := by
  have used := spares_forked during plan pid
  have made : ⟨during, .forked plan pid⟩ ∈ events.map (Entry.mk (some operation)) := by simp [split]
  cases concern with
  | none => simp at made
  | @beginning next _ later text line beginning =>
      have spared := spares_of_makes (some operation) beginning.makes pid
      cases between with
      | nil =>
          obtain ⟨same, rfl⟩ := List.cons.inj split
          obtain ⟨rfl, sameEvent⟩ := Entry.mk.inj same
          obtain ⟨rfl, -⟩ := Event.forked.inj sameEvent
          subst line
          rw [List.takeWhile_eq_self_iff.2 spared]
          exact ⟨text, _, rfl, .begun beginning, fun _ => rfl⟩
      | cons first between =>
          obtain ⟨-, deeper⟩ := List.cons.inj split
          have spare := spared ⟨during, .forked plan pid⟩ (by
            rw [deeper]
            exact List.mem_append_right _ List.mem_cons_self)
          simp [used] at spare
  | farewell farewell =>
      have spare := spares_of_makes (some operation) farewell.makes pid _ made
      simp [used] at spare

/-- After a child is made follows its life, up to where its number is used again. -/
theorem Lives.life {there : Bool} {entries before : List Entry} (lives : Lives pid there entries)
    (split : entries = before ++ ⟨during, .forked plan pid⟩ :: after) :
    ∃ text still, during = some (.line text) ∧
      Life pid plan text still (after.takeWhile (Entry.spares pid)) ∧
      ((∀ entry ∈ after, entry.spares pid = true) → still = there) := by
  induction lives generalizing after with
  | none => simp at split
  | more soFar concern ih =>
      rcases place_in_append split with ⟨rest, inside, rfl⟩ | ⟨between, -, inside⟩
      · obtain ⟨text, still, line, life, goesOn⟩ := ih inside
        obtain ⟨still, longer, goesOn⟩ := life.more goesOn concern
        exact ⟨text, still, line, longer, goesOn⟩
      · exact concern.life inside

end

end JobShell
