/-
Module: JobShell.Proofs.LoopStages
Purpose: What the stages of the loop keep, the loop keeps.  A relation that is passed on and holds over each
  operation, each reading, each write and each note holds from the start of a run to its end; and one that holds
  over the calls by which input is read holds over the reading of a line from it.
Main exports: StagesKeep, StagesKeep.runWithin, StagesKeep.run, LineBuffer.next_keeps
-/
import JobShell.Loop
import JobShell.Proofs.Deeds

namespace JobShell

variable {ρ σ : Type}

/-! ### The loop -/

/-- A relation is passed on, and holds over each stage that the loop goes through. -/
structure StagesKeep (k : Kernel σ) (source : LineSource ρ σ) (R : Shell σ → Shell σ → Prop) : Prop where
  trans {sh sh' sh'' : Shell σ} : R sh sh' → R sh' sh'' → R sh sh''
  perform {sh sh' : Shell σ} (operation : Operation) : operation.perform k sh = some sh' → R sh sh'
  read {r r' : ρ} {sh : Shell σ} {s : σ} {outcome : Except ReadFailure Reading} :
    source.next r sh.system = some (outcome, r', s) → R sh { sh with system := s }
  write (stream : Stream) (text : String) (sh : Shell σ) :
    R sh { sh with system := k.write stream text sh.system }
  note (n : Diagnostics.Note) (sh : Shell σ) : R sh { sh with system := k.note n sh.system }

namespace StagesKeep

variable {k : Kernel σ} {source : LineSource ρ σ} {R : Shell σ → Shell σ → Prop} {emphasis : Emphasis}
  {r r' : ρ} {sh sh' : Shell σ} {result : Except Failure Unit}

/-- What is done before each reading. -/
theorem beforeReading (keep : StagesKeep k source R) (sh : Shell σ) : R sh (sh.beforeReading k) :=
  keep.trans (keep.perform .reportModes rfl) (keep.perform .reportFinished rfl)

theorem executeLine (keep : StagesKeep k source R) {text : String} {outcome : Except Failure Flow}
    (executed : sh.executeLine k text = some (outcome, sh')) : R sh sh' :=
  keep.perform (.line text) (by simp [Operation.perform, executed])

/-- The loop, whatever it ends on. -/
theorem runWithin (keep : StagesKeep k source R) {fuel : Nat}
    (ran : Shell.runWithin k source emphasis fuel r sh = some (result, r', sh')) : R sh sh' := by
  induction fuel generalizing r sh with
  | zero => simp [Shell.runWithin] at ran
  | succ fuel ih =>
      have ready := keep.beforeReading sh
      rw [Shell.runWithin] at ran
      split at ran
      · simp at ran
      · next cause r₁ s₁ read =>
        obtain ⟨-, -, rfl⟩ := by simpa only [Option.some.injEq, Prod.mk.injEq] using ran
        exact keep.trans ready (keep.read read)
      · next r₁ s₁ read =>
        obtain ⟨-, -, rfl⟩ := by simpa only [Option.some.injEq, Prod.mk.injEq] using ran
        exact keep.trans ready (keep.read read)
      · next r₁ s₁ read =>
        have interrupted := keep.trans ready (keep.read read)
        exact keep.trans (keep.trans interrupted (keep.write .out _ _)) (ih ran)
      · next text r₁ s₁ read =>
        have line := keep.trans ready (keep.read read)
        split at ran
        · simp at ran
        · next executed => exact keep.trans (keep.trans line (keep.executeLine executed)) (ih ran)
        · next executed =>
          obtain ⟨-, -, rfl⟩ := by simpa only [Option.some.injEq, Prod.mk.injEq] using ran
          exact keep.trans line (keep.executeLine executed)
        · next executed =>
          have failed := keep.trans line (keep.executeLine executed)
          split at ran
          · obtain ⟨-, -, rfl⟩ := by simpa only [Option.some.injEq, Prod.mk.injEq] using ran
            exact keep.trans failed (keep.note _ _)
          · exact keep.trans (keep.trans failed (keep.write .err _ _)) (ih ran)

/-- A whole run, the shutdown included. -/
theorem run (keep : StagesKeep k source R) (ran : sh.run k source emphasis r = some (result, sh')) :
    R sh sh' := by
  rw [Shell.run] at ran
  split at ran
  · simp at ran
  · next outcome r' reached looped =>
    obtain ⟨ended, stopped, same⟩ := Option.map_eq_some_iff.1 ran
    obtain ⟨-, rfl⟩ := Prod.mk.inj same
    exact keep.trans (keep.runWithin looped) (keep.perform .shutdown stopped)

end StagesKeep

/-! ### Lines from an input that is not a terminal -/

namespace LineBuffer

variable {k : Kernel σ} {R : σ → σ → Prop}

/-- A relation that is passed on, and holds over each block that is read, holds over the taking of blocks. -/
theorem fill_keeps (refl : ∀ s, R s s) (trans : ∀ {s t u}, R s t → R t u → R s u)
    (reads : ∀ {limit s s' answer}, k.read limit s = some (answer, s') → R s s') {fuel : Nat}
    {pending : Text.Bytes} {s s' : σ} {result : Except Errno (Text.Bytes × Text.Bytes)}
    (filled : fill k fuel pending s = some (result, s')) : R s s' := by
  induction fuel generalizing pending s with
  | zero => simp [fill] at filled
  | succ fuel ih =>
      rw [fill] at filled
      split at filled
      · obtain ⟨-, rfl⟩ := Prod.mk.inj (Option.some.inj filled)
        exact refl s
      · split at filled
        · simp at filled
        · next read =>
          obtain ⟨-, rfl⟩ := Prod.mk.inj (Option.some.inj filled)
          exact reads read
        · next read =>
          obtain ⟨-, rfl⟩ := Prod.mk.inj (Option.some.inj filled)
          exact reads read
        · next read => exact trans (reads read) (ih filled)

/-- A relation that holds over each prompt too holds over the reading of a line. -/
theorem next_keeps (refl : ∀ s, R s s) (trans : ∀ {s t u}, R s t → R t u → R s u)
    (reads : ∀ {limit s s' answer}, k.read limit s = some (answer, s') → R s s')
    (writes : ∀ stream text s, R s (k.write stream text s)) {buffer buffer' : LineBuffer} {s s' : σ}
    {result : Except ReadFailure Reading}
    (read : (source k).next buffer s = some (result, buffer', s')) : R s s' := by
  change next k buffer s = _ at read
  unfold next at read
  extract_lets prompted at read
  have prompting : R s prompted := by
    cases prompt : buffer.prompt with
    | none => simpa only [prompted, prompt] using refl s
    | some text => simpa only [prompted, prompt] using writes .out text s
  split at read
  · simp at read
  all_goals
    next filled =>
    obtain ⟨-, -, rfl⟩ := by simpa only [Option.some.injEq, Prod.mk.injEq] using read
    exact trans prompting (fill_keeps refl trans reads filled)

end LineBuffer

end JobShell
