/-
Module: JobShell.Proofs.Ending
Purpose: The ways in which the system can end a process, each with the word that reports it, and what the
  shell makes of the word: an exit and a death by a signal that has a name are read back as they were, a
  death by a real-time signal is refused.
Main exports: Ending, Ending.word, Ending.status, Ending.isNamed, Ending.decode_word, Ending.word_injective
-/
import JobShell.WaitWord

namespace JobShell

/-- How the system ends a process: with an exit code, of which one byte is kept, or by a signal, which may
leave a core file behind. -/
inductive Ending where
  | exited (code : UInt8)
  | killed (signal : Nat) (core : Bool) (real : 1 ≤ signal ∧ signal ≤ 64)
deriving Repr, DecidableEq

namespace Ending

/-- The word in which the system reports an ending. -/
def word : Ending → Int
  | exited code => WaitWord.ofExit code.toNat
  | killed signal core _ => WaitWord.ofSignal signal + if core then 128 else 0

/-- The ending in the terms of the shell. -/
def status : Ending → Termination
  | exited code => .exited code.toNat
  | killed signal _ _ => .signaled signal

/-- Whether the shell has a name for the ending. -/
def isNamed : Ending → Bool
  | exited _ => true
  | killed signal _ _ => Signal.isNamed signal

/-- The word of an exit is read as that exit. -/
theorem decode_ofExit (code : UInt8) :
    WaitWord.decode (WaitWord.ofExit code.toNat) = .ok (some (.exited code.toNat)) := by
  have small : code.toNat < 256 := code.toNat_lt
  have bits : WaitWord.bits (WaitWord.ofExit code.toNat) = code.toNat * 256 := by
    simp only [WaitWord.bits, WaitWord.ofExit]
    omega
  have low : WaitWord.low (WaitWord.ofExit code.toNat) = 0 := by
    rw [WaitWord.low, bits]
    omega
  have second : WaitWord.second (WaitWord.ofExit code.toNat) = code.toNat := by
    rw [WaitWord.second, bits]
    omega
  simp [WaitWord.decode, low, second]

/-- The low seven bits of the word of a death by signal are the signal, core file or not. -/
theorem low_word_killed {signal : Nat} (core : Bool) (real : 1 ≤ signal ∧ signal ≤ 64) :
    WaitWord.low (killed signal core real).word = signal := by
  simp only [word, WaitWord.low, WaitWord.bits, WaitWord.ofSignal]
  cases core <;> simp <;> omega

/-- The shell reads a word back as the ending it reports, if it has a name for it. -/
theorem decode_word (how : Ending) :
    WaitWord.decode how.word =
      if how.isNamed then .ok (some how.status) else .error Errno.invalid := by
  cases how with
  | exited code => exact decode_ofExit code
  | killed signal core real =>
      have low := low_word_killed core real
      have positive : ¬ signal = 0 := by omega
      have below : signal < 127 := by omega
      cases named : Signal.isNamed signal with
      | true => simp [WaitWord.decode, low, positive, below, isNamed, status, named]
      | false => simp [WaitWord.decode, low, positive, below, isNamed, named]

/-- A named ending is read back as it was. -/
theorem decode_word_of_isNamed {how : Ending} (named : how.isNamed = true) :
    WaitWord.decode how.word = .ok (some how.status) := by
  simp [decode_word, named]

/-- An ending without a name is refused. -/
theorem decode_word_of_not_isNamed {how : Ending} (nameless : how.isNamed = false) :
    WaitWord.decode how.word = .error Errno.invalid := by
  simp [decode_word, nameless]

/-- Two named endings with one word have one status. -/
theorem status_eq_of_word_eq {one other : Ending} (named : one.isNamed = true)
    (same : one.word = other.word) : other.isNamed = true ∧ one.status = other.status := by
  have read := decode_word_of_isNamed named
  rw [same] at read
  cases otherNamed : other.isNamed with
  | false => simp [decode_word_of_not_isNamed otherNamed] at read
  | true =>
      rw [decode_word_of_isNamed otherNamed] at read
      simp_all

/-- Different endings have different words. -/
theorem word_injective {one other : Ending} (same : one.word = other.word) : one = other := by
  cases one with
  | exited code =>
      cases other with
      | exited code' =>
          have small := code.toNat_lt
          have small' := code'.toNat_lt
          simp only [word, WaitWord.ofExit] at same
          exact congrArg exited (UInt8.toNat_inj.1 (by omega))
      | killed signal core real =>
          simp only [word, WaitWord.ofExit, WaitWord.ofSignal] at same
          cases core <;> simp at same <;> omega
  | killed signal core real =>
      cases other with
      | exited code =>
          simp only [word, WaitWord.ofExit, WaitWord.ofSignal] at same
          cases core <;> simp at same <;> omega
      | killed signal' core' real' =>
          simp only [word, WaitWord.ofSignal] at same
          have signals : signal = signal' := by cases core <;> cases core' <;> simp at same <;> omega
          subst signals
          have cores : core = core' := by
            cases core <;> cases core' <;>
              first | rfl | (simp only [Bool.false_eq_true, if_false, if_true] at same; omega)
          subst cores
          rfl

end Ending

end JobShell
