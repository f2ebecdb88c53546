/-
Module: JobShell.Machine.Script.Limits
Purpose: The limits on what a script and the programs it starts may use.
Main exports: Limit, usualLimits, Limit.shown, Limit.set
-/
import JobShell.Errno

namespace JobShell.Machine.Script

/-- A limit: its letter, its name, the unit in which it is given, and its two bounds, of which the hard one
can only be lowered.  A bound that is not there does not bind. -/
structure Limit where
  letter : Char
  name : String
  unit : Nat
  soft : Option Nat
  hard : Option Nat
deriving Repr, Inhabited, DecidableEq

/-- The limits of a process that has set none. -/
def usualLimits : List Limit :=
  [⟨'t', "time(seconds)", 1, none, none⟩,
    ⟨'f', "file(blocks)", 512, none, none⟩,
    ⟨'d', "data(kbytes)", 1024, none, none⟩,
    ⟨'s', "stack(kbytes)", 1024, some (8192 * 1024), none⟩,
    ⟨'c', "coredump(blocks)", 512, some 0, some 0⟩,
    ⟨'m', "memory(kbytes)", 1024, none, none⟩,
    ⟨'l', "locked memory(kbytes)", 1024, some (8192 * 1024), some (8192 * 1024)⟩,
    ⟨'p', "process", 1, some 128620, some 128620⟩,
    ⟨'n', "nofiles", 1, some 20000, some 20000⟩,
    ⟨'v', "vmemory(kbytes)", 1024, none, none⟩,
    ⟨'w', "locks", 1, none, none⟩,
    ⟨'r', "rtprio", 1, some 0, some 0⟩]

/-- A bound in its unit. -/
def Limit.shown (limit : Limit) (soft : Bool) : List Char :=
  match if soft then limit.soft else limit.hard with
  | none => "unlimited".toList
  | some bound => (toString (bound / limit.unit)).toList

/-- Whether a bound lies above another one. -/
def exceeds (bound other : Option Nat) : Bool :=
  match bound, other with
  | _, none => false
  | none, some _ => true
  | some n, some limit => limit < n

/-- Sets the bounds of a limit.  The soft one stays below the hard one, which is never raised. -/
def Limit.set (limit : Limit) (soft hard : Bool) (bound : Option Nat) : Except Errno Limit :=
  let wanted :=
    { limit with
      soft := if soft then bound else limit.soft
      hard := if hard then bound else limit.hard }
  if exceeds wanted.soft wanted.hard then .error Errno.invalid
  else if exceeds wanted.hard limit.hard then .error Errno.notPermitted
  else .ok wanted

end JobShell.Machine.Script
