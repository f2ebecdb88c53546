/-
Module: JobShell.Proofs.PidMarks
Purpose: What becomes of the dollar signs of a text.  A maximal run of them gives way to one number for each
  pair in it and keeps the odd one out, and everything else stays where it is.  In a command this happens to
  every word and to every path, and where the number holds no dollar sign nothing is left for a second time.
Main exports: PidMark.Replaced, PidMark.substituteChars_eq_iff, PidMark.isMarked_iff, Command.Unmarked,
  Command.substitutePid_exactly
-/
import JobShell.PidMark
import Mathlib.Data.List.TakeWhile

namespace JobShell

namespace PidMark

/-- What a text becomes when a number is put in for its marks.  The runs are maximal: in front of one stands
the start of the text or another character, and behind it the text ends or goes on with another one. -/
inductive Replaced (pid : List Char) : List Char → List Char → Prop where
  | nothing : Replaced pid [] []
  | other {c : Char} {text outcome : List Char} (plain : c ≠ '$') (later : Replaced pid text outcome) :
      Replaced pid (c :: text) (c :: outcome)
  | run {count : Nat} {text outcome : List Char} (positive : 0 < count) (ends : text.head? ≠ some '$')
      (later : Replaced pid text outcome) :
      Replaced pid (List.replicate count '$' ++ text)
        ((List.replicate (count / 2) pid).flatten ++ List.replicate (count % 2) '$' ++ outcome)

section

variable {pid : List Char}

/-! ### Replacing from left to right -/

theorem substituteChars_pair (rest : List Char) :
    substituteChars pid ('$' :: '$' :: rest) = pid ++ substituteChars pid rest := by
  rw [substituteChars, if_pos ⟨rfl, rfl⟩]

/-- A character that is no dollar sign stays. -/
theorem substituteChars_cons {c : Char} (plain : c ≠ '$') (rest : List Char) :
    substituteChars pid (c :: rest) = c :: substituteChars pid rest := by
  cases rest with
  | nil => rfl
  | cons d rest => rw [substituteChars, if_neg fun pair => plain pair.1]

/-- A dollar sign that no other one follows stays. -/
theorem substituteChars_lone {rest : List Char} (ends : rest.head? ≠ some '$') :
    substituteChars pid ('$' :: rest) = '$' :: substituteChars pid rest := by
  cases rest with
  | nil => rfl
  | cons d rest =>
      have apart : d ≠ '$' := by simpa using ends
      rw [substituteChars, if_neg fun pair => apart pair.2]

/-- A run of dollar signs is taken pair by pair. -/
theorem substituteChars_run (count : Nat) {rest : List Char} (ends : rest.head? ≠ some '$') :
    substituteChars pid (List.replicate count '$' ++ rest) =
      (List.replicate (count / 2) pid).flatten ++ List.replicate (count % 2) '$' ++
        substituteChars pid rest := by
  induction count using Nat.twoStepInduction with
  | zero => simp
  | one => simpa using substituteChars_lone ends
  | more count ih _ =>
      have pairs : (count + 2) / 2 = count / 2 + 1 := by omega
      have odd : (count + 2) % 2 = count % 2 := by omega
      rw [pairs, odd, List.replicate_succ, List.replicate_succ, List.cons_append, List.cons_append,
        substituteChars_pair, ih, List.replicate_succ, List.flatten_cons]
      simp only [List.append_assoc]

/-- A text starts with its run of dollar signs, which may be empty. -/
theorem exists_run (text : List Char) :
    ∃ count rest, text = List.replicate count '$' ++ rest ∧ rest.head? ≠ some '$' := by
  refine ⟨(text.takeWhile (· == '$')).length, text.dropWhile (· == '$'), ?_, ?_⟩
  · have dollars : text.takeWhile (· == '$') =
        List.replicate (text.takeWhile (· == '$')).length '$' := by
      apply List.eq_replicate_of_mem
      intro c member
      simpa using List.mem_takeWhile_imp member
    rw [← dollars, List.takeWhile_append_dropWhile]
  · intro goesOn
    have stopped := List.head?_dropWhile_not (· == '$') text
    simp [goesOn] at stopped

theorem replaced_substituteChars (text : List Char) : Replaced pid text (substituteChars pid text) := by
  induction long : text.length using Nat.strong_induction_on generalizing text with
  | _ size ih =>
      obtain ⟨count, rest, rfl, ends⟩ := exists_run text
      cases count with
      | succ count =>
          rw [substituteChars_run _ ends]
          exact .run (by simp) ends (ih rest.length (by simp at long; omega) rest rfl)
      | zero =>
          cases rest with
          | nil => exact .nothing
          | cons c rest =>
              have plain : c ≠ '$' := by simpa using ends
              rw [List.replicate_zero, List.nil_append, substituteChars_cons plain]
              exact .other plain (ih rest.length (by simp at long; omega) rest rfl)

theorem Replaced.substituteChars_eq {text outcome : List Char} (replaced : Replaced pid text outcome) :
    substituteChars pid text = outcome := by
  induction replaced with
  | nothing => rfl
  | other plain later ih => rw [substituteChars_cons plain, ih]
  | run positive ends later ih => rw [substituteChars_run _ ends, ih]

/-- Replacing from left to right does to a text what is said of its runs, and nothing else does. -/
theorem substituteChars_eq_iff {text outcome : List Char} :
    substituteChars pid text = outcome ↔ Replaced pid text outcome :=
  ⟨fun same => same ▸ replaced_substituteChars text, Replaced.substituteChars_eq⟩

/-! ### Marks -/

theorem isMarked_cons_of_ne {c : Char} (plain : c ≠ '$') (rest : List Char) :
    isMarked (c :: rest) = isMarked rest := by
  cases rest with
  | nil => rfl
  | cons d rest => simp [isMarked, plain]

theorem isMarked_lone {rest : List Char} (ends : rest.head? ≠ some '$') :
    isMarked ('$' :: rest) = isMarked rest := by
  cases rest with
  | nil => rfl
  | cons d rest =>
      have apart : d ≠ '$' := by simpa using ends
      simp [isMarked, apart]

/-- A text without dollar signs in front neither holds a mark nor becomes part of one. -/
theorem isMarked_append {front : List Char} (plain : '$' ∉ front) (rest : List Char) :
    isMarked (front ++ rest) = isMarked rest := by
  induction front with
  | nil => rfl
  | cons c front ih =>
      have first : c ≠ '$' := fun same => plain (same ▸ List.mem_cons_self)
      have others : '$' ∉ front := fun inside => plain (List.mem_cons_of_mem _ inside)
      rw [List.cons_append, isMarked_cons_of_ne first, ih others]

/-- A text is marked if two dollar signs stand next to each other in it. -/
theorem isMarked_iff {text : List Char} : isMarked text = true ↔ ['$', '$'] <:+: text := by
  fun_induction isMarked text with
  | case1 => simp
  | case2 c => simp [List.infix_cons_iff]
  | case3 c d rest ih =>
      rw [List.infix_cons_iff, List.cons_prefix_cons, List.cons_prefix_cons, ← ih]
      simp [@eq_comm _ '$']

/-- What starts with no dollar sign starts with none afterwards. -/
theorem Replaced.head?_ne {text outcome : List Char} (replaced : Replaced pid text outcome)
    (ends : text.head? ≠ some '$') : outcome.head? ≠ some '$' := by
  cases replaced with
  | nothing => exact ends
  | other plain later => simpa using plain
  | @run count text outcome positive ends' later =>
      obtain ⟨count, rfl⟩ := Nat.exists_eq_succ_of_ne_zero positive.ne'
      simp [List.replicate_succ] at ends

/-- Where a number without dollar signs was put in, no mark is left. -/
theorem Replaced.isMarked_eq_false {text outcome : List Char} (plain : '$' ∉ pid)
    (replaced : Replaced pid text outcome) : isMarked outcome = false := by
  induction replaced with
  | nothing => rfl
  | other apart later ih => rw [isMarked_cons_of_ne apart, ih]
  | @run count text outcome positive ends later ih =>
      have numbers : '$' ∉ (List.replicate (count / 2) pid).flatten := by
        simp [plain]
      rw [List.append_assoc, isMarked_append numbers]
      rcases Nat.mod_two_eq_zero_or_one count with even | odd
      · rw [even, List.replicate_zero, List.nil_append, ih]
      · rw [odd, List.replicate_one, List.singleton_append, isMarked_lone (later.head?_ne ends), ih]

end

end PidMark

/-! ### Commands -/

namespace Command

/-- No word and no path of a command holds a mark. -/
structure Unmarked (c : Command) : Prop where
  argument : ∀ word ∈ c.argv, ¬ ['$', '$'] <:+: word.toList
  target : ∀ direction path, c.path direction = some path → ¬ ['$', '$'] <:+: path.toList

/-- A command with the marks of every word and of every path replaced, whether it has any or not. -/
theorem substitutePid_eq (c : Command) (pid : String) :
    c.substitutePid pid =
      { argv := c.argv.map fun word => PidMark.substitute word pid
        input := c.input.map fun path => PidMark.substitute path pid
        output := c.output.map fun path => PidMark.substitute path pid
        background := c.background } := by
  simp only [substitutePid, PidMark.expand_eq_substitute]

theorem path_substitutePid (c : Command) (pid : String) (direction : Direction) :
    (c.substitutePid pid).path direction =
      (c.path direction).map fun path => PidMark.substitute path pid := by
  rw [substitutePid_eq]
  cases direction <;> rfl

/-- A word in which a number without dollar signs was put in holds no mark. -/
theorem not_infix_substitute {pid : String} (plain : '$' ∉ pid.toList) (word : String) :
    ¬ ['$', '$'] <:+: (PidMark.substitute word pid).toList := by
  rw [← PidMark.isMarked_iff, PidMark.substitute, String.toList_ofList,
    (PidMark.replaced_substituteChars word.toList).isMarked_eq_false plain]
  exact Bool.false_ne_true

theorem unmarked_substitutePid {pid : String} (plain : '$' ∉ pid.toList) (c : Command) :
    (c.substitutePid pid).Unmarked := by
  constructor
  · intro word member
    rw [substitutePid_eq] at member
    obtain ⟨word, -, rfl⟩ := List.mem_map.1 member
    exact not_infix_substitute plain word
  · intro direction path given
    rw [path_substitutePid] at given
    obtain ⟨path, -, rfl⟩ := Option.map_eq_some_iff.1 given
    exact not_infix_substitute plain path

/-- A word without a mark stays as it is. -/
theorem expand_of_not_infix {word : String} (unmarked : ¬ ['$', '$'] <:+: word.toList) (pid : String) :
    PidMark.expand word pid = word := by
  rw [PidMark.expand, if_neg fun marked => unmarked (PidMark.isMarked_iff.1 marked)]

theorem Unmarked.substitutePid_eq_self {c : Command} (unmarked : c.Unmarked) (pid : String) :
    c.substitutePid pid = c := by
  have arguments : c.argv.map (fun word => PidMark.expand word pid) = c.argv := by
    rw [List.map_congr_left fun word member => expand_of_not_infix (unmarked.argument word member) pid,
      List.map_id']
  have target (direction : Direction) :
      (c.path direction).map (fun path => PidMark.expand path pid) = c.path direction := by
    cases given : c.path direction with
    | none => rfl
    | some path => rw [Option.map_some, expand_of_not_infix (unmarked.target direction path given) pid]
  have input : c.input.map (fun path => PidMark.expand path pid) = c.input := target .input
  have output : c.output.map (fun path => PidMark.expand path pid) = c.output := target .output
  rw [substitutePid, arguments, input, output]

/-- In a word the runs of dollar signs are replaced, whatever is put in.  In a command this happens to every
word and to every path, and its shape stays: as many words, the same redirections, the same background.  If
what is put in holds no dollar sign, no mark is left, and nothing put in later changes anything. -/
theorem substitutePid_exactly (pid : String) :
    (∀ word outcome, PidMark.substitute word pid = outcome ↔
      PidMark.Replaced pid.toList word.toList outcome.toList) ∧
    (∀ c : Command,
      (c.substitutePid pid).argv = c.argv.map (fun word => PidMark.substitute word pid) ∧
      (c.substitutePid pid).argv.length = c.argv.length ∧
      (∀ direction, (c.substitutePid pid).path direction =
        (c.path direction).map fun path => PidMark.substitute path pid) ∧
      (∀ direction, ((c.substitutePid pid).path direction).isSome = (c.path direction).isSome) ∧
      (c.substitutePid pid).background = c.background) ∧
    ('$' ∉ pid.toList → ∀ c : Command, (c.substitutePid pid).Unmarked ∧
      ∀ other, (c.substitutePid pid).substitutePid other = c.substitutePid pid) := by
  refine ⟨?_, ?_, ?_⟩
  · intro word outcome
    rw [← PidMark.substituteChars_eq_iff, PidMark.substitute, ← String.toList_inj, String.toList_ofList]
  · intro c
    refine ⟨?_, ?_, c.path_substitutePid pid, ?_, rfl⟩
    · rw [substitutePid_eq]
    · rw [substitutePid_eq, List.length_map]
    · intro direction
      rw [path_substitutePid, Option.isSome_map]
  · intro plain c
    have unmarked := unmarked_substitutePid plain c
    exact ⟨unmarked, unmarked.substitutePid_eq_self⟩

/-- Three dollar signs give way to one number and keep one sign; a second number finds no mark. -/
theorem substitutePid_exactly_odd :
    '$' ∉ "42".toList ∧
    ({ argv := ["a$$$b"], input := some "$$" } : Command).substitutePid "42" =
      { argv := ["a42$b"], input := some "42" } ∧
    ({ argv := ["a42$b"], input := some "42" } : Command).substitutePid "7" =
      { argv := ["a42$b"], input := some "42" } := by
  have plain : '$' ∉ "42".toList := by decide
  have once : ({ argv := ["a$$$b"], input := some "$$" } : Command).substitutePid "42" =
      { argv := ["a42$b"], input := some "42" } := by decide
  refine ⟨plain, once, ?_⟩
  rw [← once]
  exact ((substitutePid_exactly "42").2.2 plain _).2 "7"

end Command

end JobShell
