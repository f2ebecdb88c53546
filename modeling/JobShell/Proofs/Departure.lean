/-
Module: JobShell.Proofs.Departure
Purpose: The end of the shell.  Whatever is read, whatever fails and however the children end, the loop keeps
  every child that is to be collected in the list, strays or not; so the shutdown at its end leaves nobody.
Main exports: LineSource.IsModest, Leads, runWithin_leads, run_leaves_nobody
-/
import JobShell.Proofs.LoopStages
import JobShell.Proofs.Rehearsal

namespace JobShell

variable {ρ σ : Type}

/-- A source of lines is modest if reading does nothing but write, as a prompt is written. -/
def LineSource.IsModest (source : LineSource ρ σ) (history : σ → History) : Prop :=
  ∀ {r r' : ρ} {s s' : σ} {result : Except ReadFailure Reading},
    source.next r s = some (result, r', s') →
      ∃ calls, (∀ call ∈ calls, ∃ stream text, call = .wrote stream text) ∧
        Passage (history s) calls (history s')

/-- Whether every child to be collected is in the list, and besides them only strays. -/
def Accounts (history : σ → History) (sh : Shell σ) : Prop :=
  ∃ strays, Tracks sh.state (history sh.system) strays

/-- One shell leads to another if time has gone on between them and the account is kept. -/
structure Leads (history : σ → History) (sh sh' : Shell σ) : Prop where
  passage : ∃ calls, Passage (history sh.system) calls (history sh'.system)
  keeps : Accounts history sh → Accounts history sh'

namespace Leads

variable {k : Kernel σ} {history : σ → History} {sh sh' sh'' : Shell σ}

theorem trans (first : Leads history sh sh') (second : Leads history sh' sh'') :
    Leads history sh sh'' := by
  obtain ⟨calls, before⟩ := first.passage
  obtain ⟨more, after⟩ := second.passage
  exact ⟨⟨calls ++ more, before.trans after⟩, second.keeps ∘ first.keeps⟩

/-- What neither makes nor collects a child keeps the account. -/
theorem of_plain {calls : List Event} {system : σ} (plain : ∀ call ∈ calls, call.IsPlain)
    (passage : Passage (history sh.system) calls (history system)) :
    Leads history sh { sh with system := system } := by
  refine ⟨⟨calls, passage⟩, ?_⟩
  rintro ⟨strays, tracks⟩
  refine ⟨strays, tracks.of_eq rfl ?_⟩
  rw [passage.children_eq, History.foldl_childrenAfter_of_isPlain plain]

/-- An operation keeps the account. -/
theorem of_perform (faithful : k.Faithful history) (operation : Operation)
    (performed : operation.perform k sh = some sh') : Leads history sh sh' := by
  obtain ⟨calls, deed, passage⟩ := perform_deed faithful performed
  refine ⟨⟨calls, passage⟩, ?_⟩
  rintro ⟨strays, tracks⟩
  exact ⟨_, deed.tracks passage tracks⟩

/-- Reading a line from a modest source keeps the account. -/
theorem of_next {source : LineSource ρ σ} (modest : source.IsModest history) {r r' : ρ} {s' : σ}
    {result : Except ReadFailure Reading} (read : source.next r sh.system = some (result, r', s')) :
    Leads history sh { sh with system := s' } := by
  obtain ⟨calls, written, passage⟩ := modest read
  refine of_plain (fun call member => ?_) passage
  obtain ⟨stream, text, rfl⟩ := written call member
  exact ⟨rfl, rfl⟩

/-- Writing keeps the account. -/
theorem of_write (faithful : k.Faithful history) (stream : Stream) (text : String) (sh : Shell σ) :
    Leads history sh { sh with system := k.write stream text sh.system } :=
  of_plain (by simp [Event.IsPlain, Event.makes, Event.collects]) (faithful.write stream text sh.system)

/-- Taking a note keeps the account. -/
theorem of_note (faithful : k.Faithful history) (n : Diagnostics.Note) (sh : Shell σ) :
    Leads history sh { sh with system := k.note n sh.system } :=
  of_plain (by simp) (faithful.note n sh.system)

/-- Every stage of the loop keeps the account. -/
theorem stagesKeep (faithful : k.Faithful history) {source : LineSource ρ σ} (modest : source.IsModest history) :
    StagesKeep k source (Leads history) where
  trans first second := first.trans second
  perform operation performed := of_perform faithful operation performed
  read read := of_next modest read
  write stream text sh := of_write faithful stream text sh
  note n sh := of_note faithful n sh

end Leads

/-! ### Lines from an input that is not a terminal -/

section

variable {k : Kernel σ} {history : σ → History}

/-- Reading through a buffer writes at most the prompt. -/
theorem LineBuffer.source_isModest (faithful : k.Faithful history) :
    (LineBuffer.source k).IsModest history := by
  intro buffer buffer' s s' result read
  refine LineBuffer.next_keeps (R := fun s s' => ∃ calls, (∀ call ∈ calls, ∃ stream text,
    call = Event.wrote stream text) ∧ Passage (history s) calls (history s')) ?_ ?_ ?_ ?_ read
  · intro s
    exact ⟨[], by simp, .refl _⟩
  · rintro s t u ⟨calls, written, first⟩ ⟨more, after, second⟩
    refine ⟨calls ++ more, ?_, first.trans second⟩
    intro call member
    rcases List.mem_append.1 member with early | late
    · exact written call early
    · exact after call late
  · intro limit s s' answer read
    exact ⟨[], by simp, faithful.read read⟩
  · intro stream text s
    exact ⟨[.wrote stream text], by simp, faithful.write stream text s⟩

end

/-! ### The loop and what follows it -/

section

variable {k : Kernel σ} {history : σ → History} {source : LineSource ρ σ} {emphasis : Emphasis}

/-- The loop keeps the account, on whatever it ends. -/
theorem runWithin_leads (faithful : k.Faithful history) (modest : source.IsModest history) {fuel : Nat}
    {r r' : ρ} {sh sh' : Shell σ} {result : Except Failure Unit}
    (ran : Shell.runWithin k source emphasis fuel r sh = some (result, r', sh')) :
    Leads history sh sh' :=
  (Leads.stagesKeep faithful modest).runWithin ran

/-- A shutdown that starts from an account leaves nobody, and nothing to do for another one. -/
theorem shutdown_leaves_nobody (faithful : k.Faithful history) {sh ended : Shell σ}
    (accounts : Accounts history sh) (stopped : sh.shutdown k = some ended) :
    (history ended.system).children = [] ∧ ended.state.background = [] ∧
      ended.shutdown k = some ended := by
  obtain ⟨calls, deed, passage⟩ := shutdown_deed faithful stopped
  obtain ⟨strays, tracks⟩ := accounts
  have left := deed.tracks passage tracks
  have idle : ended.state.background = [] := by rw [deed.stopped_of_shutdown.2]
  have nobody := left.ordered
  rw [idle, List.sublist_nil] at nobody
  refine ⟨List.map_eq_nil_iff.1 nobody, idle, ?_⟩
  obtain ⟨⟨number, status, directory, background⟩, reported, system⟩ := ended
  obtain rfl : background = [] := idle
  rfl

/-- A child that was made and is not there any more has been collected since. -/
theorem History.collected_of_not_mem {h : History} {pid : Pid} {later : List Event}
    (there : pid ∈ h.numbers) (gone : pid ∉ numbers (h ++ later)) :
    ∃ event ∈ later, event.collects = some pid := by
  induction later generalizing h with
  | nil => exact absurd (by simpa using there) gone
  | cons event rest ih =>
      by_cases collects : event.collects = some pid
      · exact ⟨event, List.mem_cons_self, collects⟩
      · obtain ⟨other, member, same⟩ :=
          ih (h := h ++ [event]) (mem_numbers_concat collects there) (by simpa using gone)
        exact ⟨other, List.mem_cons_of_mem _ member, same⟩

/-- When the shell returns, well or with a failure, every child it made has been collected since, nobody is
left, the list is empty and another shutdown makes no call at all.  It does return if its loop ends. -/
theorem run_leaves_nobody (faithful : k.Faithful history) (deadly : k.IsDeadly history)
    (modest : source.IsModest history) (emphasis : Emphasis) (r : ρ) {sh : Shell σ}
    (idle : sh.state.background = []) (childless : (history sh.system).children = []) :
    ((sh.runLoop k source emphasis r).isSome = true → (sh.run k source emphasis r).isSome = true) ∧
      ∀ result ended, sh.run k source emphasis r = some (result, ended) →
        (∃ happened, history ended.system = history sh.system ++ happened ∧
          ∀ before plan pid after, happened = before ++ .forked plan pid :: after →
            ∃ event ∈ after, event.collects = some pid) ∧
        (history ended.system).children = [] ∧ ended.state.background = [] ∧
        ended.shutdown k = some ended := by
  refine ⟨fun looped => ?_, fun result ended ran => ?_⟩
  · obtain ⟨⟨result, r', sh'⟩, same⟩ := Option.isSome_iff_exists.1 looped
    simp only [Shell.run, same, Option.isSome_map]
    exact shutdown_isSome faithful deadly sh'
  · rw [Shell.run] at ran
    split at ran
    · simp at ran
    · next outcome r' sh' looped =>
      obtain ⟨reached, stopped, same⟩ := Option.map_eq_some_iff.1 ran
      obtain ⟨-, rfl⟩ := Prod.mk.inj same
      have loop := runWithin_leads faithful modest looped
      have start : Accounts history sh := ⟨[], Tracks.start idle childless⟩
      obtain ⟨left, empty, again⟩ := shutdown_leaves_nobody faithful (loop.keeps start) stopped
      refine ⟨?_, left, empty, again⟩
      obtain ⟨calls, happened, grown, -⟩ :=
        (loop.trans (.of_perform faithful .shutdown stopped)).passage
      refine ⟨happened, grown, ?_⟩
      rintro before plan pid after rfl
      refine History.collected_of_not_mem (h := history sh.system ++ before ++ [.forked plan pid]) ?_ ?_
      · simp [History.numbers, History.childrenAfter]
      · have gone : (history reached.system).numbers = [] := by simp [History.numbers, left]
        rw [grown] at gone
        simp [gone]

end

/-- A shell that reads the line `a &`, starts a child in the background, and comes to the end of its input. -/
theorem run_leaves_nobody_rehearsed :
    let sh := Rehearsal.shell { input := [97, 32, 38, 10] }
    let source := LineBuffer.source Rehearsal.kernel
    (sh.run Rehearsal.kernel source .plain {}).isSome = true ∧
      ((sh.runLoop Rehearsal.kernel source .plain {}).isSome = true →
        (sh.run Rehearsal.kernel source .plain {}).isSome = true) ∧
      ∀ result ended, sh.run Rehearsal.kernel source .plain {} = some (result, ended) →
        (∃ happened, ended.system.happened = sh.system.happened ++ happened ∧
          ∀ before plan pid after, happened = before ++ .forked plan pid :: after →
            ∃ event ∈ after, event.collects = some pid) ∧
        ended.system.happened.children = [] ∧ ended.state.background = [] ∧
        ended.shutdown Rehearsal.kernel = some ended :=
  ⟨by decide +kernel, run_leaves_nobody Rehearsal.faithful Rehearsal.isDeadly
    (LineBuffer.source_isModest Rehearsal.faithful) .plain {} (by rfl) (by rfl)⟩

end JobShell
