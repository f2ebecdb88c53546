/-
Module: JobShell.Proofs.LineForms
Purpose: What the shell can do at a line at all.  It does nothing, changes the directory, tells the last status or
  launches a program; every account of a line is one of these four.
Main exports: executeLine_cases, Shell.Does, executeLine_does, launchCommand_of_executeLine_none
-/
import JobShell.Proofs.BarrenLines

namespace JobShell

variable {σ : Type}

/-- A line does nothing, or hands over a command with a first word. -/
theorem executeLine_cases (k : Kernel σ) (sh : Shell σ) (line : String) :
    (sh.executeLine k line = some (.ok .proceed, sh) ∨
      ∃ cause, sh.executeLine k line = some (.error (.syntactic cause), sh)) ∨
    ∃ c name, sh.Understands line c ∧ c.program = some name ∧
      sh.executeLine k line = sh.dispatch k c := by
  cases parsed : Command.parse line with
  | error cause => exact .inl (.inr ⟨cause, by simp [Shell.executeLine, parsed]⟩)
  | ok read =>
      cases read with
      | none => exact .inl (.inl (by simp [Shell.executeLine, parsed]))
      | some written =>
          cases argv : written.argv with
          | nil => exact .inl (.inl (by simp [Shell.executeLine, parsed, Command.isEmpty, argv]))
          | cons first others =>
              have understood :
                  sh.Understands line (written.substitutePid (toString sh.state.pid)) :=
                ⟨written, parsed, rfl⟩
              have named : (written.substitutePid (toString sh.state.pid)).program =
                  some (PidMark.substitute first (toString sh.state.pid)) := by
                rw [Command.program_substitutePid, Command.program, argv]
                rfl
              exact .inr ⟨_, _, understood, named, executeLine_of_understands understood named⟩

/-- What comes of a line: nothing is done, the directory is changed, the last status is told, or a program is
launched. -/
inductive Shell.Does (k : Kernel σ) (sh : Shell σ) (line : String) : Except Failure Flow → Shell σ → Prop where
  | nothing {result : Except Failure Flow} : Does k sh line result sh
  | moves {c : Command} (understood : sh.Understands line c) (named : c.program = some "cd") :
      Does k sh line ((sh.changeDirectory k c.arguments).1.mapError .directory)
        (sh.changeDirectory k c.arguments).2
  | tells : Does k sh line (.ok .proceed) (sh.say k sh.state.lastStatus.describe)
  | launches {c : Command} {result : Except Failure Flow} {sh' : Shell σ}
      (understood : sh.Understands line c) (launched : sh.launchCommand k c = some (result, sh')) :
      Does k sh line result sh'

theorem Builtin.eq_of_ofName_cd {name : String} (named : Builtin.ofName name = some .cd) :
    name = "cd" := by
  unfold Builtin.ofName at named
  split at named <;> simp_all

section

variable {k : Kernel σ} {sh sh' : Shell σ} {line : String}

/-- A builtin comes to its own result, with its failure as one of directories. -/
theorem dispatch_of_builtin {c : Command} {builtin : Builtin}
    (chosen : c.program.bind Builtin.ofName = some builtin) :
    sh.dispatch k c =
      some ((sh.runBuiltin k builtin c.arguments).1.mapError .directory,
        (sh.runBuiltin k builtin c.arguments).2) := by
  simp only [Shell.dispatch, chosen]
  rcases sh.runBuiltin k builtin c.arguments with ⟨_ | _, _⟩ <;> rfl

/-- A line that comes back has come to one of the four. -/
theorem executeLine_does {result : Except Failure Flow}
    (executed : sh.executeLine k line = some (result, sh')) : sh.Does k line result sh' := by
  rcases executeLine_cases k sh line with (idle | ⟨cause, idle⟩) | ⟨c, name, understood, named, handed⟩
  · obtain ⟨-, rfl⟩ := Prod.mk.inj (Option.some.inj (executed.symm.trans idle))
    exact .nothing
  · obtain ⟨-, rfl⟩ := Prod.mk.inj (Option.some.inj (executed.symm.trans idle))
    exact .nothing
  · rw [handed] at executed
    cases chosen : c.program.bind Builtin.ofName with
    | none =>
        simp only [Shell.dispatch, chosen] at executed
        exact .launches understood executed
    | some builtin =>
        rw [dispatch_of_builtin chosen] at executed
        obtain ⟨rfl, rfl⟩ := Prod.mk.inj (Option.some.inj executed)
        cases builtin with
        | cd =>
            rw [named, Option.bind_some] at chosen
            obtain rfl := Builtin.eq_of_ofName_cd chosen
            exact .moves understood named
        | status => exact .tells
        | exit => exact .nothing

/-- A line that never comes back launches a program. -/
theorem launchCommand_of_executeLine_none (stuck : sh.executeLine k line = none) :
    ∃ c, sh.Understands line c ∧ sh.launchCommand k c = none := by
  rcases executeLine_cases k sh line with (idle | ⟨cause, idle⟩) | ⟨c, name, understood, named, handed⟩
  · simp [stuck] at idle
  · simp [stuck] at idle
  · rw [handed] at stuck
    cases chosen : c.program.bind Builtin.ofName with
    | none =>
        simp only [Shell.dispatch, chosen] at stuck
        exact ⟨c, understood, stuck⟩
    | some builtin =>
        rw [dispatch_of_builtin chosen] at stuck
        cases stuck

end

end JobShell
