/-
Module: JobShell.Proofs.Upkeep
Purpose: What the shell's memory holds after any row of changes to it, told by the row alone: a background
  child stands from when it is added until it is dropped or all are handed over, and each of the other two
  fields is what was put there last.  Whatever the shell is asked to do changes its memory by such rows, and
  the directory by `cd` only.
Main exports: Upkeep, Upkeep.performAll, Upkeep.standing, Upkeep.performAll_fresh, Upkeep.Minds,
  Operation.perform_minds
-/
import Mathlib.Data.List.Basic
import JobShell.Proofs.LineForms

namespace JobShell

/-- A change of the shell's memory. -/
inductive Upkeep where
  | track (pid : Pid)
  | untrack (pid : Pid)
  | takeBackground
  | recordStatus (status : Termination)
  | setDirectory (directory : Text.Bytes)
deriving Repr, DecidableEq

namespace Upkeep

/-- Makes a change; taking the background children hands over a list of them. -/
def perform : Upkeep → ShellState → Option (List Pid) × ShellState
  | track pid, s => (none, s.track pid)
  | untrack pid, s => (none, s.untrack pid)
  | takeBackground, s => (some s.takeBackground.1, s.takeBackground.2)
  | recordStatus status, s => (none, s.recordStatus status)
  | setDirectory directory, s => (none, s.setDirectory directory)

/-- Makes changes one after another: what each of them handed over, and the memory at the end. -/
def performAll : List Upkeep → ShellState → List (Option (List Pid)) × ShellState
  | [], s => ([], s)
  | deed :: later, s =>
      let rest := performAll later (deed.perform s).2
      ((deed.perform s).1 :: rest.1, rest.2)

/-- Whether a change takes a child out of the background, however often it is there. -/
def drops (pid : Pid) : Upkeep → Bool
  | untrack other => other == pid
  | takeBackground => true
  | _ => false

/-- The children that were added and that nothing later dropped, in the order in which they were added. -/
def standing : List Upkeep → List Pid
  | [] => []
  | track pid :: later => if later.any (drops pid) then standing later else pid :: standing later
  | _ :: later => standing later

/-- The status that a change records. -/
def recorded? : Upkeep → Option Termination
  | recordStatus status => some status
  | _ => none

/-- The directory that a change sets. -/
def directory? : Upkeep → Option Text.Bytes
  | setDirectory directory => some directory
  | _ => none

section

variable (s : ShellState) (deed : Upkeep) (deeds later : List Upkeep)

@[simp] theorem performAll_nil : performAll [] s = ([], s) := rfl

@[simp] theorem performAll_cons :
    performAll (deed :: later) s =
      ((deed.perform s).1 :: (performAll later (deed.perform s).2).1,
        (performAll later (deed.perform s).2).2) := rfl

/-- Changes in two rows are changes in one. -/
theorem performAll_append :
    performAll (deeds ++ later) s =
      ((performAll deeds s).1 ++ (performAll later (performAll deeds s).2).1,
        (performAll later (performAll deeds s).2).2) := by
  induction deeds generalizing s with
  | nil => rfl
  | cons deed rest ih => simp [ih]

/-- Every change answers once. -/
@[simp] theorem length_performAll : (performAll deeds s).1.length = deeds.length := by
  induction deeds generalizing s with
  | nil => rfl
  | cons deed rest ih => simp [ih]

/-! ### One change -/

/-- No change touches the shell's own number. -/
@[simp] theorem pid_perform : (deed.perform s).2.pid = s.pid := by
  cases deed <;> rfl

/-- The status after a change is the one it records, if it records one. -/
theorem lastStatus_perform : (deed.perform s).2.lastStatus = deed.recorded?.getD s.lastStatus := by
  cases deed <;> rfl

/-- The directory after a change is the one it sets, if it sets one. -/
theorem directory_perform : (deed.perform s).2.directory = deed.directory?.getD s.directory := by
  cases deed <;> rfl

/-- A change drops all entries of what it drops, and adds at most one at the end. -/
theorem background_perform :
    (deed.perform s).2.background =
      s.background.filter (fun pid => !deed.drops pid) ++ standing [deed] := by
  cases deed with
  | track pid => simp [perform, ShellState.track, drops, standing]
  | untrack pid =>
      have same : (fun other : Pid => other != pid) = fun other => !(pid == other) := by
        funext other
        rw [bne, Bool.beq_comm]
      simp only [perform, ShellState.untrack, drops, standing, same, List.append_nil]
  | takeBackground => simp [perform, ShellState.takeBackground, drops, standing]
  | recordStatus status => simp [perform, ShellState.recordStatus, drops, standing]
  | setDirectory directory => simp [perform, ShellState.setDirectory, drops, standing]

/-! ### Any row of changes -/

/-- What stands after a row and one change more: of the old children those that are not dropped later, and
the ones added since. -/
theorem standing_cons :
    standing (deed :: later) =
      (standing [deed]).filter (fun pid => !later.any (drops pid)) ++ standing later := by
  cases deed with
  | track pid =>
      by_cases dropped : later.any (drops pid)
      · simp [standing, dropped]
      · simp [standing, dropped]
  | _ => simp [standing]

theorem pid_performAll : (performAll deeds s).2.pid = s.pid := by
  induction deeds generalizing s with
  | nil => rfl
  | cons deed rest ih => simp [ih]

/-- The background after a row of changes: of what was there all that nothing dropped, then what stands. -/
theorem background_performAll :
    (performAll deeds s).2.background =
      s.background.filter (fun pid => !deeds.any (drops pid)) ++ standing deeds := by
  induction deeds generalizing s with
  | nil => simp [standing]
  | cons deed later ih =>
      calc (performAll (deed :: later) s).2.background
          = (performAll later (deed.perform s).2).2.background := rfl
        _ = (deed.perform s).2.background.filter (fun pid => !later.any (drops pid)) ++
              standing later := ih _
        _ = s.background.filter (fun pid => !(deed :: later).any (drops pid)) ++
              standing (deed :: later) := by
            rw [background_perform, standing_cons deed later, List.filter_append, List.filter_filter,
              List.append_assoc]
            simp [Bool.and_comm]

/-- The status after a row of changes is the one recorded last. -/
theorem lastStatus_performAll :
    (performAll deeds s).2.lastStatus = (deeds.filterMap recorded?).getLastD s.lastStatus := by
  induction deeds generalizing s with
  | nil => rfl
  | cons deed later ih =>
      rw [performAll_cons, ih, lastStatus_perform, List.filterMap_cons]
      cases deed.recorded? with
      | none => rfl
      | some status => exact List.getLastD_cons.symm

/-- The directory after a row of changes is the one set last. -/
theorem directory_performAll :
    (performAll deeds s).2.directory = (deeds.filterMap directory?).getLastD s.directory := by
  induction deeds generalizing s with
  | nil => rfl
  | cons deed later ih =>
      rw [performAll_cons, ih, directory_perform, List.filterMap_cons]
      cases deed.directory? with
      | none => rfl
      | some directory => exact List.getLastD_cons.symm

/-- Taking the background children hands over what is there just before. -/
theorem handed_over :
    (performAll (deeds ++ takeBackground :: later) s).1[deeds.length]? =
      some (some (performAll deeds s).2.background) := by
  rw [performAll_append]
  simp [perform, ShellState.takeBackground]

end

/-- The memory of a new shell after any row of changes: the background children are the ones that stand,
each taking of them hands over exactly those that stood just before, and status and directory are what was
put there last, else what they were at the start. -/
theorem performAll_fresh (pid : Pid) (directory : Text.Bytes) (deeds : List Upkeep) :
    (performAll deeds { pid, directory }).2 =
        { pid
          lastStatus := (deeds.filterMap recorded?).getLastD .success
          directory := (deeds.filterMap directory?).getLastD directory
          background := standing deeds } ∧
      ∀ before after,
        (performAll (before ++ takeBackground :: after) { pid, directory }).1[before.length]? =
          some (some (standing before)) := by
  have stands : ∀ row, (performAll row { pid, directory }).2.background = standing row := by
    intro row
    rw [background_performAll]
    rfl
  constructor
  · let reached := (performAll deeds { pid, directory }).2
    calc reached
        = ⟨reached.pid, reached.lastStatus, reached.directory, reached.background⟩ := rfl
      _ = ⟨pid, (deeds.filterMap recorded?).getLastD .success,
            (deeds.filterMap directory?).getLastD directory, standing deeds⟩ := by
          simp only [reached, pid_performAll, lastStatus_performAll, directory_performAll, stands]
  · intro before after
    rw [handed_over, stands]

/-- A number that is added twice is dropped twice by one dropping, the order of the others stays, and what
is handed over is no longer there. -/
example :
    performAll [.track 7, .track 8, .track 7, .untrack 7, .track 9, .takeBackground, .track 7,
        .recordStatus (.exited 3), .untrack 8] { pid := 1, directory := [47] } =
      ([none, none, none, none, none, some [8, 9], none, none, none],
        { pid := 1, lastStatus := .exited 3, directory := [47], background := [7] }) := by
  decide

/-! ### The changes that the shell makes -/

/-- A memory comes from another one by changes none of which sets the directory. -/
def Minds (s s' : ShellState) : Prop :=
  ∃ deeds, (∀ deed ∈ deeds, deed.directory? = none) ∧ (performAll deeds s).2 = s'

namespace Minds

variable {s s' s'' : ShellState}

theorem refl (s : ShellState) : Minds s s :=
  ⟨[], by simp, rfl⟩

theorem single (deed : Upkeep) (still : deed.directory? = none) (s : ShellState) :
    Minds s (deed.perform s).2 :=
  ⟨[deed], by simpa using still, rfl⟩

theorem trans (first : Minds s s') (second : Minds s' s'') : Minds s s'' := by
  obtain ⟨deeds, still, rfl⟩ := first
  obtain ⟨later, after, rfl⟩ := second
  refine ⟨deeds ++ later, ?_, by rw [performAll_append]⟩
  intro deed member
  rcases List.mem_append.1 member with early | late
  · exact still deed early
  · exact after deed late

/-- Changes that set no directory leave the one that was remembered. -/
theorem directory_eq (minds : Minds s s') : s'.directory = s.directory := by
  obtain ⟨deeds, still, rfl⟩ := minds
  have silent : deeds.filterMap directory? = [] := List.filterMap_eq_nil_iff.2 still
  rw [directory_performAll, silent]
  rfl

end Minds

end Upkeep

open Upkeep

section

variable {σ : Type} (k : Kernel σ) (sh : Shell σ)

/-- Telling modes changes nothing in the memory. -/
theorem Shell.state_announceAll (modes : List Mode) :
    (modes.foldl (Shell.announce k) sh).state = sh.state := by
  induction modes generalizing sh with
  | nil => rfl
  | cons mode rest ih => exact ih (sh.announce k mode)

@[simp] theorem Shell.state_reportModes : (sh.reportModes k).state = sh.state :=
  Shell.state_announceAll k _ _

@[simp] theorem Shell.state_afterForeground (status : Termination) :
    (sh.afterForeground k status).state = sh.state.recordStatus status := by
  cases status with
  | exited code => exact Shell.state_reportModes k _
  | signaled signal => exact Shell.state_reportModes k _

/-- A launch records a status, adds a child or leaves the memory as it is. -/
theorem Shell.settleLaunch_minds (t : σ) (outcome : Except ProcessFailure Launch) :
    Minds sh.state (sh.settleLaunch k t outcome).2.state := by
  cases outcome with
  | error e => exact .refl _
  | ok launched =>
      cases launched with
      | foreground pid status =>
          simp only [Shell.settleLaunch, Shell.state_afterForeground]
          exact .single (.recordStatus status) rfl sh.state
      | background pid finished =>
          cases finished with
          | none => exact .single (.track pid) rfl sh.state
          | some status => exact .single (.recordStatus status) rfl sh.state

/-- Reporting collected children drops each of them and records its status. -/
theorem Shell.reportAll_minds (collected : List Collected) :
    Minds sh.state (collected.foldl (Shell.reportCollected k) sh).state := by
  induction collected generalizing sh with
  | nil => exact .refl _
  | cons child rest ih =>
      have dropped : Minds sh.state (sh.state.untrack child.pid) := .single (.untrack child.pid) rfl _
      have recorded : Minds (sh.state.untrack child.pid) (sh.reportCollected k child).state :=
        .single (.recordStatus child.status) rfl _
      exact (dropped.trans recorded).trans (ih (sh.reportCollected k child))

/-- A shutdown takes the background children. -/
theorem Shell.shutdown_minds {sh sh' : Shell σ} (done : sh.shutdown k = some sh') :
    Minds sh.state sh'.state := by
  have taken : Minds sh.state { sh.state with background := [] } := .single .takeBackground rfl _
  by_cases idle : sh.state.background = []
  · obtain rfl : { sh with state := { sh.state with background := [] } } = sh' := by
      simpa [Shell.shutdown, ShellState.takeBackground, idle] using done
    exact taken
  · rw [shutdown_eq k idle, Option.map_eq_some_iff] at done
    obtain ⟨ended, -, rfl⟩ := done
    exact taken

end

section

variable {σ : Type} {k : Kernel σ} {sh sh' : Shell σ}

/-- Whatever the shell is asked to do is a `cd`, which is carried out, or it leaves the remembered directory
alone. -/
theorem Operation.perform_minds {operation : Operation} (performed : operation.perform k sh = some sh') :
    (∃ line c, operation = .line line ∧ sh.Understands line c ∧ c.program = some "cd" ∧
      sh' = (sh.changeDirectory k c.arguments).2) ∨ Minds sh.state sh'.state := by
  cases operation with
  | line text =>
      obtain ⟨⟨result, reached⟩, executed, rfl⟩ := Option.map_eq_some_iff.1 performed
      cases executeLine_does executed with
      | nothing => exact .inr (.refl _)
      | moves understood named => exact .inl ⟨text, _, rfl, understood, named, rfl⟩
      | tells => exact .inr (.refl _)
      | launches understood launched =>
          obtain ⟨seen, s, outcome, t, -, -, settled⟩ := launchCommand_eq_some launched
          have minds := Shell.settleLaunch_minds k sh t outcome
          rw [settled] at minds
          exact .inr minds
  | reportModes =>
      obtain rfl := Option.some.inj performed
      right
      rw [Shell.state_reportModes]
      exact .refl _
  | reportFinished =>
      obtain rfl := Option.some.inj performed
      exact .inr (Shell.reportAll_minds k { sh with system := (sweep k sh.system).2 } _)
  | shutdown => exact .inr (Shell.shutdown_minds k performed)

end

end JobShell
