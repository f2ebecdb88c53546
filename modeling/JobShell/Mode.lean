/-
Module: JobShell.Mode
Purpose: Foreground-only mode.  Every toggle is counted and the mode is the parity of the count, so a
  toggle that arrives at any moment is neither lost nor seen twice; the notices that are still to be
  shown are those of the counts between the last one reported and the one just read.  The suspend signal
  is counted by an action that is registered for it once.
Main exports: Mode, Mode.afterToggles, Mode.transitions, SignalActions, ModeSwitch, ModeSwitch.install,
  ModeSwitch.drain
-/
import JobShell.Failure

namespace JobShell

/-- Whether background commands are honoured. -/
inductive Mode where
  | normal
  | foregroundOnly
deriving Repr, Inhabited, DecidableEq

namespace Mode

/-- The mode after a number of toggles. -/
def afterToggles (count : Nat) : Mode :=
  if count % 2 = 1 then foregroundOnly else normal

/-- The notice shown when a mode is entered. -/
def notice : Mode → String
  | foregroundOnly => "Entering foreground-only mode (& is now ignored)"
  | normal => "Exiting foreground-only mode"

/-- The name of a mode in diagnostics. -/
def label : Mode → String
  | foregroundOnly => "ForegroundOnly"
  | normal => "Normal"

/-- The modes entered after the count `reported` and up to the count `seen`, oldest first. -/
def transitions (reported seen : UInt64) : List Mode :=
  (List.range' (reported.toNat + 1) (seen.toNat - reported.toNat)).map afterToggles

end Mode

/-- The number under which an action is registered. -/
abbrev ActionId := Nat

/-- A system on which actions that count toggles can be registered for the suspend signal.  Every action
that is registered runs each time the signal arrives. -/
structure SignalActions (σ : Type) where
  /-- Registers one more action, unless it is refused. -/
  register : σ → Except String ActionId × σ
  /-- The actions that are registered, the oldest first. -/
  actions : σ → List ActionId

/-- The count of toggles, the count up to which they have been reported, and the action that counts the
suspend signals, once it is registered. -/
structure ModeSwitch where
  toggles : UInt64 := 0
  reported : UInt64 := 0
  action : Option ActionId := none
deriving Repr, Inhabited, DecidableEq

namespace ModeSwitch

variable {σ : Type}

/-- Counts a toggle. -/
def toggle (s : ModeSwitch) : ModeSwitch :=
  { s with toggles := s.toggles + 1 }

/-- Has the suspend signal counted.  Where this has been done already nothing more is registered. -/
def install (signals : SignalActions σ) (s : ModeSwitch) (system : σ) :
    Except ProcessFailure Unit × ModeSwitch × σ :=
  if s.action.isSome then (.ok (), s, system)
  else
    match signals.register system with
    | (.error text, system') => (.error (.signalSetup text), s, system')
    | (.ok action, system') => (.ok (), { s with action := some action }, system')

/-- Counts one arrival of the suspend signal: every registered action counts a toggle. -/
def countSignal (actions : List ActionId) (s : ModeSwitch) : ModeSwitch :=
  actions.foldl (fun counted _ => counted.toggle) s

/-- The mode in force. -/
def mode (s : ModeSwitch) : Mode :=
  Mode.afterToggles s.toggles.toNat

/-- Whether background commands run in the foreground. -/
def isForegroundOnly (s : ModeSwitch) : Bool :=
  s.mode == .foregroundOnly

/-- Marks everything up to a count that was read before as reported, and gives the modes entered in
between.  Toggles that arrived after the count was read stay for the next time. -/
def reportUpTo (s : ModeSwitch) (seen : UInt64) : List Mode × ModeSwitch :=
  (Mode.transitions s.reported seen, { s with reported := seen })

/-- Reads the count and reports up to it. -/
def drain (s : ModeSwitch) : List Mode × ModeSwitch :=
  s.reportUpTo s.toggles

end ModeSwitch

end JobShell
