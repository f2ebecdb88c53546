/-
Module: JobShell.Proofs.Reporting
Purpose: What is told about background children.  In every run that starts without children, and in which
  every child ends in a way that has a name, each background child is named once and reported at most once,
  truly, and exactly if its own line or a sweep collected it; and every sweep reports all that had ended.
Main exports: lifeOf, linesAbout, collectionsOf, Told, ToldOnce, background_told_once
-/
import JobShell.Proofs.Lives
import JobShell.Proofs.Rehearsal

namespace JobShell

/-- What follows on a child being made, up to where its number is used again. -/
def lifeOf (pid : Pid) (after : List Entry) : List Entry :=
  after.takeWhile (Entry.spares pid)

/-- The lines about the background child of a number. -/
def linesAbout (pid : Pid) (entries : List Entry) : List Entry :=
  entries.filter fun entry => entry.event.tells pid

/-- Where the child of a number is collected. -/
def collectionsOf (pid : Pid) (entries : List Entry) : List Entry :=
  entries.filter fun entry => entry.event.collects == some pid

/-- What is told of a background child in its life: by the line that made it that it is there, and after that
at most one report.  There is a report exactly if the first question of that line or a sweep has collected
the child, and it says how the child ended; who is not reported has been collected by a shutdown, if at
all. -/
inductive Told (pid : Pid) (line : Operation) (life : List Entry) : Prop where
  | unreported (lines : linesAbout pid life = [⟨some line, .announcement pid⟩])
      (kept : ∀ entry ∈ collectionsOf pid life, entry.during = some .shutdown)
  | atOnce (how : Ending)
      (lines : linesAbout pid life =
        [⟨some line, .announcement pid⟩, ⟨some line, .report ⟨pid, how.status⟩⟩])
      (collected : collectionsOf pid life =
        [⟨some line, .polled (.only pid) (.changed pid how.word)⟩])
      (ended : .ended pid how ∈ life.map Entry.event)
  | swept (how : Ending)
      (lines : linesAbout pid life =
        [⟨some line, .announcement pid⟩, ⟨some .reportFinished, .report ⟨pid, how.status⟩⟩])
      (collected : collectionsOf pid life =
        [⟨some .reportFinished, .polled .any (.changed pid how.word)⟩])
      (ended : .ended pid how ∈ life.map Entry.event)

/-! ### Lives in a record -/

/-- Cutting a row at its first failure and leaving out what does not count may be done in either order, as
long as every failure counts. -/
theorem takeWhile_filter {α : Type} {p counts : α → Bool} (counted : ∀ x, p x = false → counts x = true)
    (row : List α) : (row.filter counts).takeWhile p = (row.takeWhile p).filter counts := by
  induction row with
  | nil => rfl
  | cons x rest ih =>
      cases holds : p x with
      | true => cases inside : counts x <;> simp [holds, inside, ih]
      | false => simp [holds, counted x holds]

/-- What is left out twice may be left out at once. -/
theorem filter_of_imp {α : Type} {p counts : α → Bool} (counted : ∀ x, p x = true → counts x = true)
    (row : List α) : (row.filter counts).filter p = row.filter p := by
  rw [List.filter_filter]
  refine List.filter_congr fun x _ => ?_
  cases holds : p x with
  | true => simp [counted x holds]
  | false => simp

theorem lifeOf_filter (pid : Pid) (after : List Entry) :
    (after.filter fun entry => entry.event.concerns pid).takeWhile (Entry.spares pid) =
      (lifeOf pid after).filter fun entry => entry.event.concerns pid := by
  refine takeWhile_filter (fun entry used => ?_) after
  have made : entry.event.makes = some pid := by simpa [Entry.spares] using used
  simp [Event.concerns, made]

theorem linesAbout_filter (pid : Pid) (entries : List Entry) :
    linesAbout pid (entries.filter fun entry => entry.event.concerns pid) = linesAbout pid entries :=
  filter_of_imp (fun entry told => by simp [Event.concerns, told]) entries

theorem collectionsOf_filter (pid : Pid) (entries : List Entry) :
    collectionsOf pid (entries.filter fun entry => entry.event.concerns pid) =
      collectionsOf pid entries :=
  filter_of_imp (fun entry collected => by simp_all [Event.concerns]) entries

/-- A child that is collected in its life has ended in it. -/
theorem ended_of_collected {h : History} {entries before after : List Entry} {pid : Pid}
    {plan : LaunchPlan} {during : Option Operation} {collection : Entry} {target : WaitTarget}
    {word : Int} (proper : h.Proper (entries.map Entry.event))
    (split : entries = before ++ ⟨during, .forked plan pid⟩ :: after)
    (member : collection ∈ lifeOf pid after)
    (collected : collection.event = .polled target (.changed pid word)) :
    ∃ how : Ending, word = how.word ∧ .ended pid how ∈ (lifeOf pid after).map Entry.event := by
  obtain ⟨early, late, inside⟩ := List.append_of_mem member
  obtain ⟨rest, whole⟩ : ∃ rest, after = early ++ collection :: rest := by
    refine ⟨late ++ after.dropWhile (Entry.spares pid), ?_⟩
    rw [← List.cons_append, ← List.append_assoc, ← inside]
    exact List.takeWhile_append_dropWhile.symm
  have place : entries.map Entry.event =
      (before.map Entry.event ++ .forked plan pid :: early.map Entry.event) ++
        .polled target (.changed pid word) :: rest.map Entry.event := by
    simp [split, whole, collected]
  obtain ⟨-, -, how, known, rfl⟩ := proper.fits place
  rw [← List.append_assoc] at known
  refine ⟨how, rfl, ?_⟩
  rw [inside, List.map_append]
  exact List.mem_append_left _ (History.mem_of_fate_of_forked known)

/-- The lives of a child start with its being made. -/
theorem Lives.starts {pid : Pid} {there : Bool} {entries : List Entry}
    (lives : Lives pid there entries) :
    (entries = [] ∧ there = false) ∨
      ∃ during plan rest, entries = ⟨during, .forked plan pid⟩ :: rest := by
  induction lives with
  | none => exact .inl ⟨rfl, rfl⟩
  | @more was is entries operation events soFar concern ih =>
      rcases ih with ⟨rfl, rfl⟩ | ⟨during, plan, rest, rfl⟩
      · cases concern with
        | none => exact .inl ⟨rfl, rfl⟩
        | beginning text line beginning => exact .inr ⟨_, _, _, rfl⟩
      · exact .inr ⟨during, plan, _, rfl⟩

/-- A life in the foreground is not told of. -/
theorem Life.lines_of_foreground {pid : Pid} {plan : LaunchPlan} {text : String} {still : Bool}
    {entries : List Entry} (life : Life pid plan text still entries) (front : plan.foreground = true) :
    linesAbout pid entries = [] := by
  cases life with
  | begun beginning =>
      cases beginning with
      | front how _ => simp [linesAbout, Event.tells_eq_false]
      | running behind => simp [front] at behind
      | prompt how behind named => simp [front] at behind
  | left beginning farewell =>
      cases beginning with
      | running behind => simp [front] at behind

/-- A life in the background is told of, truly if its words are. -/
theorem Life.told_of_background {pid : Pid} {plan : LaunchPlan} {text : String} {still : Bool}
    {life : List Entry}
    (lived : Life pid plan text still (life.filter fun entry => entry.event.concerns pid))
    (behind : plan.foreground = false)
    (ended : ∀ during target word, ⟨during, .polled target (.changed pid word)⟩ ∈ life →
      ∃ how : Ending, word = how.word ∧ .ended pid how ∈ life.map Entry.event) :
    Told pid (.line text) life := by
  have lines := linesAbout_filter pid life
  have collections := collectionsOf_filter pid life
  generalize shape : (life.filter fun entry => entry.event.concerns pid) = own
    at lived lines collections
  have within : ∀ entry ∈ own, entry ∈ life := by
    rw [← shape]
    exact fun entry member => (List.mem_filter.1 member).1
  cases lived with
  | begun beginning =>
      cases beginning with
      | front how front => simp [behind] at front
      | running _ =>
          refine .unreported (lines.symm.trans ?_) ?_
          · simp [linesAbout, Event.tells_announcement]
          · rw [← collections]
            simp [collectionsOf, Event.announcement, Event.said, Event.collects]
      | prompt how _ named =>
          obtain ⟨other, same, happened⟩ := ended (some (.line text)) (.only pid) how.word (within _ (by simp))
          have status := (Ending.status_eq_of_word_eq named same).2
          refine .atOnce other (lines.symm.trans ?_) (collections.symm.trans ?_) happened
          · simp [linesAbout, Event.tells_eq_false, Event.tells_announcement, Event.tells_report, status]
          · simp [collectionsOf, Event.announcement, Event.report, Event.said, Event.collects,
              WaitAnswer.collects, same]
  | left beginning farewell =>
      cases beginning with
      | running _ =>
          cases farewell with
          | swept how named =>
              obtain ⟨other, same, happened⟩ := ended (some .reportFinished) .any how.word (within _ (by simp))
              have status := (Ending.status_eq_of_word_eq named same).2
              refine .swept other (lines.symm.trans ?_) (collections.symm.trans ?_) happened
              · simp [linesAbout, Event.tells_eq_false, Event.tells_announcement, Event.tells_report,
                  status]
              · simp [collectionsOf, Event.announcement, Event.report, Event.said, Event.collects,
                  WaitAnswer.collects, same]
          | @stopped event collects silent =>
              refine .unreported (lines.symm.trans ?_) ?_
              · simp [linesAbout, Event.tells_announcement, silent]
              · rw [← collections]
                simp [collectionsOf, Event.announcement, Event.said, Event.collects]

/-! ### Sweeps -/

/-- Reporting makes no child. -/
theorem Deed.makes_of_reportFinished {state state' : ShellState} {calls : List Event}
    (deed : Deed state .reportFinished calls state') : ∀ call ∈ calls, call.makes = none := by
  cases deed with
  | swept swept =>
      intro call member
      rcases List.mem_append.1 member with asked | told
      · exact swept.makes call asked
      · obtain ⟨child, -, rfl⟩ := List.mem_map.1 told
        rfl

/-- Reporting leaves no child that had ended when it was called for, if every word can be read. -/
theorem Deed.not_mem_numbers_of_reportFinished {state state' : ShellState} {h h' : History}
    {calls : List Event} {pid : Pid} {how : Ending} (deed : Deed state .reportFinished calls state')
    (passage : Passage h calls h') (legible : ∀ call ∈ calls, call.isLegible = true)
    (ended : h.fate pid = some how) : pid ∉ h'.numbers := by
  cases deed with
  | @swept calls collected swept =>
      obtain ⟨g, sweeping, telling⟩ := passage.split
      have whole : calls.filterMap Event.dropped = [] := by
        refine List.filterMap_eq_nil_iff.2 fun call member => ?_
        exact Event.dropped_eq_none (legible call (List.mem_append_left _ member))
      refine telling.not_mem (fun call member => ?_) (swept.not_mem_numbers sweeping whole ended)
      obtain ⟨child, -, rfl⟩ := List.mem_map.1 member
      simp [Event.report, Event.said, Event.makes]

/-- Every child that had ended when reporting is called for is reported, as it had ended. -/
theorem Deed.reports_ended {state state' : ShellState} {h h' : History} {events : List Event}
    {pid : Pid} {how : Ending} (deed : Deed state .reportFinished (events.filter Event.isCall) state')
    (proper : h.Proper events) (grown : h' = h ++ events)
    (legible : ∀ event ∈ events, event.isLegible = true) (there : pid ∈ h.numbers)
    (ended : h.fate pid = some how) : .report ⟨pid, how.status⟩ ∈ events := by
  have passage : Passage h (events.filter Event.isCall) h' := ⟨events, grown, proper, rfl⟩
  have read : ∀ call ∈ events.filter Event.isCall, call.isLegible = true := fun call member =>
    legible call (List.mem_filter.1 member).1
  have gone := deed.not_mem_numbers_of_reportFinished passage read ended
  have concern := deed.concern passage read pid
  rw [filter_concerns_filter, decide_eq_true there, decide_eq_false gone] at concern
  generalize shape : events.filter (Event.concerns pid) = own at concern
  have within : ∀ event ∈ own, event ∈ events := by
    rw [← shape]
    exact fun event member => (List.mem_filter.1 member).1
  cases concern with
  | farewell farewell =>
      cases farewell with
      | swept other named =>
          obtain ⟨before, after, split⟩ := List.append_of_mem (within (.polled .any (.changed pid other.word))
            (by simp))
          obtain ⟨-, -, ending, known, same⟩ := proper.fits split
          subst split
          have kept := (Passage.of_proper proper).fate_eq_of_some (fun call member => by
            simp [deed.makes_of_reportFinished call (by simp [List.mem_filter.1 member])]) ended
          -- The child had ended already, so the word that is handed over is that of its ending.
          obtain rfl : ending = how := Option.some.inj (known.symm.trans kept)
          rw [← (Ending.status_eq_of_word_eq named same).2]
          exact within _ (by simp)

/-! ### Runs -/

/-- What is told in some turns, by what had happened at their start. -/
structure ToldOnce (start : History) (turns : List Turn) : Prop where
  /-- Every child is made by a line of input; one in the background is told of once, and one in the
  foreground never. -/
  launches : ∀ before during plan pid after,
    record turns = before ++ ⟨during, .forked plan pid⟩ :: after →
      ∃ text, during = some (.line text) ∧
        if plan.foreground then linesAbout pid (lifeOf pid after) = []
        else Told pid (.line text) (lifeOf pid after)
  /-- A line about a background child comes after that child has been made. -/
  lines : ∀ before entry after pid, record turns = before ++ entry :: after →
    entry.event.tells pid = true → ∃ made ∈ before, made.event.makes = some pid
  /-- Every report that finishes tells of all children that had ended when it was called for, as they had
  ended. -/
  reports : ∀ earlier events later, turns = earlier ++ ⟨some .reportFinished, events⟩ :: later →
    ∀ pid ∈ History.numbers (start ++ eventsOf earlier), ∀ how,
      History.fate (start ++ eventsOf earlier) pid = some how → .report ⟨pid, how.status⟩ ∈ events

section

variable {σ : Type} {k : Kernel σ} {history : σ → History}

/-- In a run that starts without children, and in which every ending has a name, every background child is
told of once. -/
theorem background_told_once (faithful : k.Faithful history) {first last : Shell σ}
    {turns : List Turn} (childless : (history first.system).children = [])
    (session : Session k history first turns last)
    (named : ∀ event ∈ eventsOf turns, event.isNamed = true) :
    ToldOnce (history first.system) turns := by
  have legible := session.isLegible faithful childless named
  obtain ⟨-, proper⟩ := session.history_eq faithful
  rw [← map_event_record] at proper
  constructor
  case launches =>
    intro before during plan pid after split
    have lives := session.lives faithful childless legible pid
    obtain ⟨text, still, line, life, -⟩ := lives.life (by
      rw [split, List.filter_append, List.filter_cons_of_pos (by simp [Event.concerns_forked])])
    rw [lifeOf_filter] at life
    refine ⟨text, line, ?_⟩
    split
    · next front =>
      rw [← linesAbout_filter]
      exact life.lines_of_foreground front
    · next behind =>
      refine life.told_of_background (by simpa using behind) fun during target word member => ?_
      exact ended_of_collected proper split member rfl
  case lines =>
    intro before entry after pid split told
    have lives := session.lives faithful childless legible pid
    rw [split, List.filter_append, List.filter_cons_of_pos (by simp [Event.concerns, told])] at lives
    rcases lives.starts with ⟨nothing, -⟩ | ⟨during, plan, rest, first⟩
    · simp at nothing
    · cases own : before.filter fun entry => entry.event.concerns pid with
      | nil =>
          rw [own] at first
          obtain ⟨rfl, -⟩ := List.cons.inj first
          rw [Event.tells_eq_false (by simp)] at told
          simp at told
      | cons made others =>
          rw [own] at first
          obtain ⟨rfl, -⟩ := List.cons.inj first
          refine ⟨⟨during, .forked plan pid⟩, ?_, rfl⟩
          exact (List.mem_filter.1 (own ▸ List.mem_cons_self)).1
  case reports =>
    rintro earlier events later rfl pid there how ended
    obtain ⟨sh, sh', soFar, performed, happened⟩ := session.reaches
    rw [← (soFar.history_eq faithful).1] at there ended
    obtain ⟨deed, grows⟩ := perform_events faithful performed happened
    refine deed.reports_ended grows happened (fun event member => legible event ?_) there ended
    simp [eventsOf, member]

/-- Two children are launched and the second is swept, a third is demoted under its number, and a shutdown
collects the first: it was named once, and of the other number one child was named and reported. -/
theorem background_told_once_rehearsed :
    let start : Rehearsal := { endings := [.killed 15 false (by decide)] }
    let turns := (start.result
      [.ask (.line "a &"), .ask (.line "b &"), .ends 101 (.exited 3), .ask .reportFinished, .suspend,
        .ask (.line "c &"), .ends 100 (.exited 0), .ask .shutdown]).1
    ToldOnce start.happened turns ∧
      linesAbout 100 (record turns) = [⟨some (.line "a &"), .announcement 100⟩] ∧
      linesAbout 101 (record turns) =
        [⟨some (.line "b &"), .announcement 101⟩,
          ⟨some .reportFinished, .report ⟨101, .exited 3⟩⟩] :=
  ⟨background_told_once Rehearsal.faithful (by rfl) (Rehearsal.session_result _ _ (by rfl))
      (by decide +kernel),
    by decide +kernel, by decide +kernel⟩

end

end JobShell
