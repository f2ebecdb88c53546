/-
Module: JobShell.WaitWord
Purpose: The word in which the system reports a change of a child.  Its low seven bits tell an exit
  (0), a stop or a continuation (127) and a death by signal (the rest) apart; the second byte holds
  the exit code or the stopping signal.
Main exports: Signal.isNamed, WaitWord.decode
-/
import JobShell.Errno
import JobShell.Termination

namespace JobShell

/-- The signals that have a name: the standard ones, not the real-time ones. -/
def Signal.isNamed (number : Nat) : Bool :=
  1 ≤ number && number ≤ 31

namespace WaitWord

/-- The unsigned value of a 32-bit word. -/
def bits (word : Int) : Nat :=
  (word % 4294967296).toNat

/-- The low seven bits. -/
def low (word : Int) : Nat :=
  bits word % 128

/-- The second byte: an exit code or a stopping signal. -/
def second (word : Int) : Nat :=
  bits word / 256 % 256

/-- A stop at the border of a system call carries the trap signal with its high bit set. -/
def isCallStop (word : Int) : Bool :=
  second word == 133

/-- The termination that a word reports, `none` for a stop or a continuation.  A signal without a name
makes the word invalid. -/
def decode (word : Int) : Except Errno (Option Termination) :=
  if low word = 0 then
    .ok (some (.exited (second word)))
  else if low word < 127 then
    if Signal.isNamed (low word) then .ok (some (.signaled (low word)))
    else .error Errno.invalid
  else if bits word % 256 = 127 then
    if isCallStop word || Signal.isNamed (second word) then .ok none
    else .error Errno.invalid
  else
    .ok none

/-- The word of a process that exited with a code; only its low byte survives. -/
def ofExit (code : Nat) : Int :=
  (code % 256 * 256 : Nat)

/-- The word of a process killed by a signal. -/
def ofSignal (signal : Nat) : Int :=
  (signal % 128 : Nat)

end WaitWord

end JobShell
