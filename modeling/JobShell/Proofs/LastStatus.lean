/-
Module: JobShell.Proofs.LastStatus
Purpose: What the last status means over whole runs.  It is how the child ended that was handed over last by a
  foreground wait, by the first question after a background child or by a sweep, in the order in which they
  were handed over, and success before any; nothing else changes it, and `status` says exactly it.
Main exports: Entry.handsOver, LastHandedOver, Deed.lastStatus_eq, Session.lastStatus_eq, Unremarkable,
  lastStatus_of_last_child
-/
import JobShell.Proofs.Lives
import JobShell.Proofs.Rehearsal
import Mathlib.Data.List.Induction

namespace JobShell

variable {σ : Type}

/-! ### Children that are handed over -/

/-- The number and the word of the child that an entry hands over: a line does so by waiting for its child in
the foreground, or by asking once after its child in the background, and a sweep by asking after any.  Whom a
shutdown collects does not count. -/
def Entry.handsOver (entry : Entry) : Option (Pid × Int) :=
  match entry.during, entry.event with
  | some (.line _), .awaited _ (.changed pid word) => some (pid, word)
  | some (.line _), .polled (.only _) (.changed pid word) => some (pid, word)
  | some .reportFinished, .polled .any (.changed pid word) => some (pid, word)
  | _, _ => none

/-- The status of the child that was handed over last, by how it had ended when it was handed over. -/
inductive LastHandedOver (h : History) (entries : List Entry) : Termination → Prop where
  | nobody (none : ∀ entry ∈ entries, entry.handsOver = none) : LastHandedOver h entries .success
  | child {before after : List Entry} {entry : Entry} {pid : Pid} {word : Int} {how : Ending}
      (split : entries = before ++ entry :: after) (handed : entry.handsOver = some (pid, word))
      (last : ∀ later ∈ after, later.handsOver = none)
      (ended : History.fate (h ++ before.map Entry.event) pid = some how) :
      LastHandedOver h entries how.status

/-- The last status after one more entry: that in the word of a child handed over, if it can be read. -/
def Entry.statusAfter (status : Termination) (entry : Entry) : Termination :=
  match entry.handsOver with
  | some (_, word) =>
      match WaitWord.decode word with
      | .ok (some read) => read
      | _ => status
  | none => status

/-- Nobody is handed over by what the system does by itself. -/
theorem Entry.handsOver_of_not_isCall {event : Event} (own : event.isCall = false)
    (during : Option Operation) : Entry.handsOver ⟨during, event⟩ = none := by
  cases event <;> simp_all [Event.isCall, handsOver]

/-- Nobody is handed over where nobody is collected. -/
theorem Entry.handsOver_of_collects {event : Event} (none : event.collects = .none)
    (during : Option Operation) : Entry.handsOver ⟨during, event⟩ = .none := by
  cases event with
  | polled target answer => cases answer <;> simp_all [Event.collects, WaitAnswer.collects, handsOver]
  | awaited pid answer => cases answer <;> simp_all [Event.collects, WaitAnswer.collects, handsOver]
  | _ => simp [handsOver]

/-- Nobody is handed over by a shutdown. -/
theorem Entry.handsOver_of_shutdown (event : Event) :
    Entry.handsOver ⟨some .shutdown, event⟩ = none := by
  simp [handsOver]

/-- Events that hand over nobody leave the status as it is. -/
theorem foldl_statusAfter_of_none {during : Option Operation} {events : List Event}
    (none : ∀ event ∈ events, Entry.handsOver ⟨during, event⟩ = .none) (status : Termination) :
    (events.map (Entry.mk during)).foldl Entry.statusAfter status = status := by
  induction events with
  | nil => rfl
  | cons event later ih =>
      rw [List.map_cons, List.foldl_cons, Entry.statusAfter, none event List.mem_cons_self]
      exact ih fun other member => none other (List.mem_cons_of_mem _ member)

/-- Events that collect nobody leave the status as it is. -/
theorem foldl_statusAfter_of_isPlain {events : List Event} (plain : ∀ event ∈ events, event.IsPlain)
    (during : Option Operation) (status : Termination) :
    (events.map (Entry.mk during)).foldl Entry.statusAfter status = status :=
  foldl_statusAfter_of_none
    (fun event member => Entry.handsOver_of_collects (plain event member).2 during) status

/-- The status depends on the calls of the shell alone. -/
theorem foldl_statusAfter_filter (during : Option Operation) (events : List Event)
    (status : Termination) :
    ((events.filter Event.isCall).map (Entry.mk during)).foldl Entry.statusAfter status =
      (events.map (Entry.mk during)).foldl Entry.statusAfter status := by
  induction events generalizing status with
  | nil => rfl
  | cons event later ih =>
      cases call : event.isCall with
      | true => simp [call, ih]
      | false =>
          have same : Entry.statusAfter status ⟨during, event⟩ = status := by
            rw [Entry.statusAfter, Entry.handsOver_of_not_isCall call]
          simp [call, ih, same]

/-! ### What an operation makes of the last status -/

/-- A wait in the foreground leaves what its word says. -/
theorem foldl_statusAfter_waits (text : String) (pid : Pid) (interruptions : Nat) (word : Int)
    (status : Termination) :
    ((waits pid interruptions (.changed pid word)).map (Entry.mk (some (.line text)))).foldl
        Entry.statusAfter status =
      Entry.statusAfter status ⟨some (.line text), .awaited pid (.changed pid word)⟩ := by
  rw [waits, List.map_append, List.foldl_append,
    foldl_statusAfter_of_isPlain fun event => isPlain_of_mem_interruptions]
  rfl

theorem Launched.lastStatus_eq {state state' : ShellState} {calls : List Event}
    (launched : Launched state calls state') (text : String) :
    state'.lastStatus =
      (calls.map (Entry.mk (some (.line text)))).foldl Entry.statusAfter state.lastStatus := by
  cases launched with
  | refused => rfl
  | @waited plan pid how interruptions reported seen front named =>
      rw [List.map_append, List.foldl_append,
        foldl_statusAfter_of_isPlain fun event => isPlain_of_mem_aftermath, List.map_cons,
        List.foldl_cons, foldl_statusAfter_waits]
      simp [Entry.statusAfter, Entry.handsOver, how.decode_word_of_isNamed named,
        ShellState.recordStatus]
  | lost pid how interruptions front nameless =>
      rw [List.map_cons, List.foldl_cons, foldl_statusAfter_waits]
      simp [Entry.statusAfter, Entry.handsOver, how.decode_word_of_not_isNamed nameless]
  | @running plan answer pid behind still =>
      refine (foldl_statusAfter_of_none (fun call member => ?_) _).symm
      refine Entry.handsOver_of_collects ?_ _
      rcases (by simpa using member : call = .forked plan pid ∨ call = .polled (.only pid) answer ∨
        call = .announcement pid) with rfl | rfl | rfl
      · rfl
      · exact still
      · rfl
  | prompt pid how behind named =>
      simp [Entry.statusAfter, Entry.handsOver, how.decode_word_of_isNamed named,
        ShellState.recordStatus, Event.announcement, Event.report, Event.said]
  | unread pid how behind nameless =>
      simp [Entry.statusAfter, Entry.handsOver, how.decode_word_of_not_isNamed nameless]

/-- A sweep leaves the status of the child that it returns last. -/
theorem Swept.lastStatus_eq {calls : List Event} {collected : List Collected}
    (swept : Swept calls collected) (state : ShellState) :
    (collected.foldl ShellState.settle state).lastStatus =
      (calls.map (Entry.mk (some .reportFinished))).foldl Entry.statusAfter state.lastStatus := by
  induction swept generalizing state with
  | quiet => rfl
  | alone => rfl
  | unreadable pid how nameless =>
      simp [Entry.statusAfter, Entry.handsOver, how.decode_word_of_not_isNamed nameless]
  | interrupted later ih => exact ih state
  | returned pid how named later ih =>
      rw [List.foldl_cons, ih]
      simp [Entry.statusAfter, Entry.handsOver, how.decode_word_of_isNamed named, ShellState.settle,
        ShellState.recordStatus]

theorem Deed.lastStatus_eq {state state' : ShellState} {operation : Operation} {calls : List Event}
    (deed : Deed state operation calls state') :
    state'.lastStatus =
      (calls.map (Entry.mk (some operation))).foldl Entry.statusAfter state.lastStatus := by
  cases deed with
  | idle text => rfl
  | moved text path directory => rfl
  | told text => rfl
  | launched text seen launched => exact launched.lastStatus_eq text
  | announced reported seen =>
      exact (foldl_statusAfter_of_isPlain (fun call => isPlain_of_mem_modeReport) _ _).symm
  | @swept calls collected swept =>
      have telling : ∀ call ∈ collected.map Event.report, Event.IsPlain call := by
        intro call member
        obtain ⟨child, -, rfl⟩ := List.mem_map.1 member
        exact Event.isPlain_said _
      rw [List.map_append, List.foldl_append, foldl_statusAfter_of_isPlain telling,
        swept.lastStatus_eq]
  | stopped stopped =>
      exact (foldl_statusAfter_of_none (fun call _ => Entry.handsOver_of_shutdown call) _).symm

/-! ### Whole runs -/

section

variable {k : Kernel σ} {history : σ → History} {first last : Shell σ} {turns : List Turn}

/-- The last status is what the entries of the run make of the first one. -/
theorem Session.lastStatus_eq (faithful : k.Faithful history)
    (session : Session k history first turns last) :
    last.state.lastStatus = (record turns).foldl Entry.statusAfter first.state.lastStatus := by
  induction session with
  | start => rfl
  | @perform turns events sh sh' operation soFar performed happened ih =>
      have deed := (perform_events faithful performed happened).1
      rw [record_concat, List.foldl_append, ← ih, deed.lastStatus_eq, foldl_statusAfter_filter]
  | @meanwhile turns events sh system soFar proper own happened ih =>
      have nobody : ∀ event ∈ events, Entry.handsOver ⟨none, event⟩ = .none :=
        fun event member => Entry.handsOver_of_not_isCall (own event member) .none
      rw [record_concat, List.foldl_append, ← ih, foldl_statusAfter_of_none nobody]

/-- A child is handed over by the answer to a question or to a wait. -/
theorem Entry.answer_of_handsOver {entry : Entry} {pid : Pid} {word : Int}
    (handed : entry.handsOver = some (pid, word)) :
    (∃ target, entry.event = .polled target (.changed pid word)) ∨
      ∃ other, entry.event = .awaited other (.changed pid word) := by
  obtain ⟨during, event⟩ := entry
  rw [handsOver] at handed
  split at handed
  · next same =>
    obtain ⟨rfl, rfl⟩ := Prod.mk.inj (Option.some.inj handed)
    exact .inr ⟨_, same⟩
  · next same =>
    obtain ⟨rfl, rfl⟩ := Prod.mk.inj (Option.some.inj handed)
    exact .inl ⟨_, same⟩
  · next same =>
    obtain ⟨rfl, rfl⟩ := Prod.mk.inj (Option.some.inj handed)
    exact .inl ⟨_, same⟩
  · simp at handed

/-- Whoever is handed over has ended, and the word says how. -/
theorem Entry.ended_of_handsOver {h : History} {entry : Entry} {pid : Pid} {word : Int}
    (fits : entry.event.Fits h) (handed : entry.handsOver = some (pid, word)) :
    pid ∈ h.numbers ∧ ∃ how, h.fate pid = some how ∧ word = how.word := by
  rcases Entry.answer_of_handsOver handed with ⟨target, same⟩ | ⟨other, same⟩
  · rw [same] at fits
    exact ⟨fits.1, fits.2.2⟩
  · rw [same] at fits
    exact ⟨fits.2.1, fits.2.2.2⟩

/-- An entry that hands over nobody leaves the child handed over last. -/
theorem LastHandedOver.concat {h : History} {entries : List Entry} {entry : Entry}
    {status : Termination} (lasting : LastHandedOver h entries status)
    (none : entry.handsOver = .none) : LastHandedOver h (entries ++ [entry]) status := by
  cases lasting with
  | nobody before =>
      refine .nobody fun other member => ?_
      rcases List.mem_append.1 member with earlier | only
      · exact before other earlier
      · rw [List.mem_singleton.1 only, none]
  | child split handed last ended =>
      refine .child (by rw [split, List.append_assoc, List.cons_append]) handed (fun other member => ?_)
        ended
      rcases List.mem_append.1 member with earlier | only
      · exact last other earlier
      · rw [List.mem_singleton.1 only, none]

/-- As long as the endings can be read, the entries make of success the status of the child handed over
last. -/
theorem lastHandedOver_foldl {h : History} {entries : List Entry}
    (proper : h.Proper (entries.map Entry.event)) (readable : h.IsReadable)
    (named : ∀ event ∈ entries.map Entry.event, event.isNamed = true) :
    LastHandedOver h entries (entries.foldl Entry.statusAfter .success) := by
  induction entries using List.reverseRecOn with
  | nil => exact .nobody (by simp)
  | append_singleton entries entry ih =>
      rw [List.map_append, History.proper_append] at proper
      obtain ⟨before, fits, -⟩ := proper
      have namedBefore : ∀ event ∈ entries.map Entry.event, event.isNamed = true :=
        fun event member => named event (by simp only [List.map_append, List.mem_append, member, true_or])
      have readableBefore := (before.isReadable readable namedBefore).1
      rw [List.foldl_append, List.foldl_cons, List.foldl_nil]
      cases handed : entry.handsOver with
      | none =>
          rw [Entry.statusAfter, handed]
          exact (ih before namedBefore).concat handed
      | some child =>
          obtain ⟨pid, word⟩ := child
          obtain ⟨there, how, ended, rfl⟩ := Entry.ended_of_handsOver fits handed
          have read := how.decode_word_of_isNamed (readableBefore pid there how ended)
          simp only [Entry.statusAfter, handed, read]
          exact .child rfl handed (by simp) ended

end

/-! ### What leaves the last status alone -/

/-- What can be asked of a shell, with what happens then, that is no ending of a child to be remembered: a
line that is blank or a comment, that has no words, that names a builtin, or that fails; a line whose child
in the background is still running when it is asked after; announcing modes; and a shutdown. -/
inductive Unremarkable (k : Kernel σ) (sh : Shell σ) : Operation → List Event → Prop where
  | meaningless {text : String} {events : List Event} (nothing : Command.parse text = .ok none) :
      Unremarkable k sh (.line text) events
  | wordless {text : String} {c : Command} {events : List Event}
      (parsed : Command.parse text = .ok (some c)) (empty : c.argv = []) :
      Unremarkable k sh (.line text) events
  | builtin {text name : String} {c : Command} {builtin : Builtin} {events : List Event}
      (parsed : Command.parse text = .ok (some c)) (program : c.program = some name)
      (named : Builtin.ofName name = some builtin) : Unremarkable k sh (.line text) events
  | failed {text : String} {e : Failure} {sh' : Shell σ} {events : List Event}
      (failing : sh.executeLine k text = some (.error e, sh')) :
      Unremarkable k sh (.line text) events
  | running {text : String} {pid : Pid} {answer : WaitAnswer} {events : List Event}
      (asked : .polled (.only pid) answer ∈ events) (still : answer.collects = none) :
      Unremarkable k sh (.line text) events
  | modes (events : List Event) : Unremarkable k sh .reportModes events
  | stopped (events : List Event) : Unremarkable k sh .shutdown events

/-- The name of a builtin holds no mark. -/
theorem Builtin.substitute_eq {name : String} {builtin : Builtin}
    (named : Builtin.ofName name = some builtin) (pid : String) :
    PidMark.substitute name pid = name := by
  unfold Builtin.ofName at named
  split at named
  · rfl
  · rfl
  · rfl
  · simp at named

section

variable {k : Kernel σ} {sh sh' : Shell σ}

/-- A line that names a builtin runs it on the words behind the name, with the marks replaced. -/
theorem executeLine_eq_runBuiltin {text name : String} {c : Command} {builtin : Builtin}
    (parsed : Command.parse text = .ok (some c)) (program : c.program = some name)
    (named : Builtin.ofName name = some builtin) (k : Kernel σ) (sh : Shell σ) :
    sh.executeLine k text =
      some ((sh.runBuiltin k builtin (c.substitutePid (toString sh.state.pid)).arguments).1.mapError
          .directory,
        (sh.runBuiltin k builtin (c.substitutePid (toString sh.state.pid)).arguments).2) := by
  have words : c.isEmpty = false := by
    cases argv : c.argv with
    | nil => simp [Command.program, argv] at program
    | cons first rest => simp [Command.isEmpty, argv]
  have head : (c.substitutePid (toString sh.state.pid)).program = some name := by
    rw [Command.program_substitutePid, program, Option.map_some, Builtin.substitute_eq named]
  simp only [Shell.executeLine, parsed, words, Bool.false_eq_true, if_false, Shell.dispatch, head,
    Option.bind_some, named]
  rcases sh.runBuiltin k builtin (c.substitutePid (toString sh.state.pid)).arguments
    with ⟨_ | _, ran⟩ <;> rfl

/-- A line that names a builtin runs it. -/
theorem executeLine_builtin {text name : String} {c : Command} {builtin : Builtin}
    (parsed : Command.parse text = .ok (some c)) (program : c.program = some name)
    (named : Builtin.ofName name = some builtin) (k : Kernel σ) (sh : Shell σ) :
    ∃ arguments, sh.executeLine k text =
      some ((sh.runBuiltin k builtin arguments).1.mapError .directory,
        (sh.runBuiltin k builtin arguments).2) :=
  ⟨_, executeLine_eq_runBuiltin parsed program named k sh⟩

/-- No builtin changes the last status. -/
theorem runBuiltin_lastStatus (k : Kernel σ) (builtin : Builtin) (arguments : List String)
    (sh : Shell σ) :
    (sh.runBuiltin k builtin arguments).2.state.lastStatus = sh.state.lastStatus := by
  cases builtin with
  | exit => rfl
  | status => rfl
  | cd =>
      rw [Shell.runBuiltin, Shell.changeDirectory]
      cases Shell.directoryTarget arguments (Shell.home k sh.system) with
      | error e => rfl
      | ok target =>
          simp only
          rcases Shell.enter k target sh.system with ⟨_ | _, s⟩ <;> rfl

/-- A launch that fails leaves the memory as it is. -/
theorem launchCommand_error_state {c : Command} {e : Failure}
    (failing : sh.launchCommand k c = some (.error e, sh')) : sh'.state = sh.state := by
  obtain ⟨_, _, outcome, _, -, -, settled⟩ := launchCommand_eq_some failing
  rcases outcome with _ | _ | _
  · obtain ⟨-, rfl⟩ := Prod.mk.inj settled
    rfl
  · simp [Shell.settleLaunch] at settled
  · simp [Shell.settleLaunch] at settled

/-- A line that fails leaves the last status as it is. -/
theorem executeLine_error_lastStatus {text : String} {e : Failure}
    (failing : sh.executeLine k text = some (.error e, sh')) :
    sh'.state.lastStatus = sh.state.lastStatus := by
  cases parsed : Command.parse text with
  | error cause =>
      obtain ⟨-, rfl⟩ := by simpa [Shell.executeLine, parsed] using failing
      rfl
  | ok meaning =>
      cases meaning with
      | none => simp [Shell.executeLine, parsed] at failing
      | some c =>
          simp only [Shell.executeLine, parsed] at failing
          split at failing
          · simp at failing
          · rw [Shell.dispatch] at failing
            split at failing
            · next builtin _ =>
              have same := runBuiltin_lastStatus k builtin
                (c.substitutePid (toString sh.state.pid)).arguments sh
              split at failing
              · simp at failing
              · next ran =>
                rw [ran] at same
                obtain ⟨-, rfl⟩ := by simpa using failing
                exact same
            · rw [launchCommand_error_state failing]

/-- A line that asks after a child in the background and finds it running leaves the last status as it
is. -/
theorem Deed.lastStatus_of_running {state state' : ShellState} {text : String} {calls : List Event}
    (deed : Deed state (.line text) calls state') {pid : Pid} {answer : WaitAnswer}
    (asked : .polled (.only pid) answer ∈ calls) (still : answer.collects = none) :
    state'.lastStatus = state.lastStatus := by
  cases deed with
  | idle => rfl
  | moved => rfl
  | told => rfl
  | launched _ seen launched =>
      have asked := (List.mem_cons.1 asked).resolve_left (by simp)
      cases launched with
      | refused => rfl
      | lost => rfl
      | running => rfl
      | unread => rfl
      | prompt other how =>
          obtain ⟨-, rfl⟩ : pid = other ∧ answer = .changed other how.word := by
            simpa [Event.announcement, Event.report, Event.said] using asked
          simp [WaitAnswer.collects] at still
      | @waited plan other how =>
          -- In the foreground nobody is asked after: there are waits, a notice and the modes announced.
          rcases List.mem_append.1 asked with waiting | telling
          · rcases mem_waits ((List.mem_cons.1 waiting).resolve_left (by simp)) with same | same <;>
              cases same
          · rcases List.mem_append.1 telling with death | modes
            · cases ended : how.status <;> simp [deathNotice, ended, Event.said] at death
            · obtain ⟨mode, -, same⟩ := List.mem_map.1 ((List.mem_cons.1 modes).resolve_left (by simp))
              cases same

/-- What is unremarkable leaves the last status as it is. -/
theorem Unremarkable.lastStatus_eq {history : σ → History} (faithful : k.Faithful history)
    {operation : Operation} {events : List Event} (unremarkable : Unremarkable k sh operation events)
    (performed : operation.perform k sh = some sh')
    (happened : history sh'.system = history sh.system ++ events) :
    sh'.state.lastStatus = sh.state.lastStatus := by
  obtain ⟨deed, -⟩ := perform_events faithful performed happened
  cases unremarkable with
  | meaningless nothing =>
      obtain rfl : sh = sh' := by simpa [Operation.perform, Shell.executeLine, nothing] using performed
      rfl
  | wordless parsed empty =>
      obtain rfl : sh = sh' := by
        simpa [Operation.perform, Shell.executeLine, parsed, Command.isEmpty, empty] using performed
      rfl
  | @builtin text name c builtin events parsed program named =>
      obtain ⟨arguments, executed⟩ := executeLine_builtin parsed program named k sh
      obtain rfl : (sh.runBuiltin k builtin arguments).2 = sh' := by
        simpa [Operation.perform, executed] using performed
      exact runBuiltin_lastStatus k builtin arguments sh
  | @failed text e reached events failing =>
      obtain rfl : reached = sh' := by simpa [Operation.perform, failing] using performed
      exact executeLine_error_lastStatus failing
  | running asked still =>
      exact deed.lastStatus_of_running (List.mem_filter.2 ⟨asked, rfl⟩) still
  | modes =>
      obtain rfl := Option.some.inj performed
      rw [(reportModes_passage faithful sh).1]
  | stopped =>
      generalize events.filter Event.isCall = calls at deed
      generalize sh'.state = state' at deed
      cases deed with
      | stopped => rfl

end

/-- At the end of every run that starts with a fresh memory and without children, and in which every child
ends in a way that has a name, the last status is that of the child handed over last; `status` says exactly
it and does nothing else; and whatever is unremarkable leaves it as it is. -/
theorem lastStatus_of_last_child {k : Kernel σ} {history : σ → History} (faithful : k.Faithful history)
    {first last : Shell σ} {turns : List Turn} (fresh : first.state.lastStatus = .success)
    (childless : (history first.system).children = [])
    (session : Session k history first turns last)
    (named : ∀ event ∈ eventsOf turns, event.isNamed = true) :
    LastHandedOver (history first.system) (record turns) last.state.lastStatus ∧
    (∀ text c, Command.parse text = .ok (some c) → c.program = some "status" →
      last.executeLine k text = some (.ok .proceed, last.say k last.state.lastStatus.describe)) ∧
    (∀ operation events next, Operation.perform k last operation = some next →
      history next.system = history last.system ++ events → Unremarkable k last operation events →
      next.state.lastStatus = last.state.lastStatus) := by
  refine ⟨?_, fun text c parsed program => ?_, fun operation events next performed happened nothing =>
    nothing.lastStatus_eq faithful performed happened⟩
  · have readable : (history first.system).IsReadable := by
      simp [History.IsReadable, History.numbers, childless]
    have proper := (session.history_eq faithful).2
    rw [session.lastStatus_eq faithful, fresh]
    rw [← map_event_record] at proper named
    exact lastHandedOver_foldl proper readable named
  · obtain ⟨arguments, executed⟩ := executeLine_builtin parsed program rfl k last
    exact executed

/-- A child exits in the foreground; of two in the background the second is killed before the first one
exits, so that a sweep hands it over last; a third is stopped by a shutdown. -/
theorem lastStatus_of_last_child_rehearsed :
    let reached := Rehearsal.result { endings := [.exited 3] }
      [.ask (.line "a"), .ask (.line "b &"), .ask (.line "c &"), .ends 101 (.killed 15 false (by decide)),
        .ends 100 (.exited 7), .ask .reportFinished, .ask (.line "d &"), .ask .reportModes,
        .ask .shutdown]
    reached.2.state.lastStatus = .signaled 15 ∧
      LastHandedOver [] (record reached.1) reached.2.state.lastStatus ∧
      reached.2.executeLine Rehearsal.kernel "status" =
        some (.ok .proceed, reached.2.say Rehearsal.kernel reached.2.state.lastStatus.describe) ∧
      (reached.2.reportModes Rehearsal.kernel).state.lastStatus = reached.2.state.lastStatus := by
  intro reached
  have session : Session Rehearsal.kernel Rehearsal.happened
      (Rehearsal.shell { endings := [.exited 3] }) reached.1 reached.2 :=
    Rehearsal.session_result _ _ (by rfl)
  obtain ⟨handed, said, kept⟩ := lastStatus_of_last_child Rehearsal.faithful (by rfl) (by rfl) session
    (by decide +kernel)
  exact ⟨by rfl, handed, said "status" _ (by rfl) (by rfl),
    kept .reportModes [.counted 0] _ rfl (by rfl) (.modes _)⟩

end JobShell
