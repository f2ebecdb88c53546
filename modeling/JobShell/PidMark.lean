/-
Module: JobShell.PidMark
Purpose: The mark `$$`, which stands for the number of the shell's own process.
Main exports: PidMark.substitute, PidMark.isMarked, PidMark.expand, Command.substitutePid
-/
import JobShell.Command

namespace JobShell

namespace PidMark

/-- Replaces the marks from left to right, each pair of dollar signs once; the number put in is not
looked at again. -/
def substituteChars (pid : List Char) : List Char → List Char
  | [] => []
  | [c] => [c]
  | c :: d :: rest =>
      if c = '$' ∧ d = '$' then pid ++ substituteChars pid rest
      else c :: substituteChars pid (d :: rest)

/-- A word with its marks replaced. -/
def substitute (word pid : String) : String :=
  String.ofList (substituteChars pid.toList word.toList)

/-- Whether a mark stands anywhere in a text. -/
def isMarked : List Char → Bool
  | [] => false
  | [_] => false
  | c :: d :: rest => (c == '$' && d == '$') || isMarked (d :: rest)

/-- A word of a command with its marks replaced; a word without any is left as it is. -/
def expand (word pid : String) : String :=
  if isMarked word.toList then substitute word pid else word

/-- Where there is no mark, nothing is replaced. -/
theorem substituteChars_of_not_isMarked {text : List Char} (unmarked : isMarked text = false)
    (pid : List Char) : substituteChars pid text = text := by
  fun_induction isMarked text with
  | case1 => rfl
  | case2 c => rfl
  | case3 c d rest ih =>
      obtain ⟨apart, later⟩ := Bool.or_eq_false_iff.1 unmarked
      have pair : ¬ (c = '$' ∧ d = '$') := by simpa using apart
      rw [substituteChars, if_neg pair, ih later]

/-- Looking for a mark first makes no difference. -/
theorem expand_eq_substitute (word pid : String) : expand word pid = substitute word pid := by
  by_cases marked : isMarked word.toList = true
  · rw [expand, if_pos marked]
  · have unmarked : isMarked word.toList = false := by simpa using marked
    rw [expand, if_neg marked, substitute, substituteChars_of_not_isMarked unmarked, String.ofList_toList]

end PidMark

/-- A command with the marks of its words and paths replaced. -/
def Command.substitutePid (c : Command) (pid : String) : Command :=
  { c with
    argv := c.argv.map fun word => PidMark.expand word pid
    input := c.input.map fun path => PidMark.expand path pid
    output := c.output.map fun path => PidMark.expand path pid }

/-- The program's name is the first word with its marks replaced. -/
theorem Command.program_substitutePid (c : Command) (pid : String) :
    (c.substitutePid pid).program = c.program.map fun name => PidMark.substitute name pid := by
  simp [Command.program, Command.substitutePid, PidMark.expand_eq_substitute]

end JobShell
