/-
Module: JobShell.Proofs.Words
Purpose: What the words of a text are: its maximal runs of characters that are not blank, in their order.  A
  text has exactly one row of such runs, and words that are put one space apart are read back as they were.
Main exports: Text.IsWord, Text.Runs, Text.words_eq_iff_runs, Text.words_intercalate
-/
import JobShell.Text.Blank
import Mathlib.Data.List.TakeWhile

namespace JobShell.Text

/-- A word has at least one character, and none of its characters is blank. -/
def IsWord (word : List Char) : Prop :=
  word ≠ [] ∧ ∀ c ∈ word, isBlank c = false

/-- Whether a text is a word can be computed, character by character. -/
instance (word : List Char) : Decidable (IsWord word) :=
  decidable_of_iff ((!word.isEmpty && word.all fun c => !isBlank c) = true) (by simp [IsWord])

/-- The runs of characters that are not blank in a text, in their order.  Before a run there are only blanks
since the run before it, and behind it the text ends or goes on with a blank, so every run is maximal. -/
inductive Runs : List Char → List (List Char) → Prop where
  | none {gap : List Char} (blank : ∀ c ∈ gap, isBlank c = true) : Runs gap []
  | run {gap word rest : List Char} {others : List (List Char)}
      (blank : ∀ c ∈ gap, isBlank c = true) (isWord : IsWord word)
      (ends : ∀ c, rest.head? = some c → isBlank c = true) (later : Runs rest others) :
      Runs (gap ++ word ++ rest) (word :: others)

/-! ### The runs of a text are its words -/

/-- A blank in front belongs to no word. -/
theorem words_cons_of_isBlank {c : Char} (blank : isBlank c = true) (text : List Char) :
    words (c :: text) = words text := by
  cases text with
  | nil => simp [words, blank]
  | cons d rest => simp [words, blank]

/-- Blanks in front belong to no word. -/
theorem words_append_of_isBlank {gap : List Char} (blank : ∀ c ∈ gap, isBlank c = true)
    (text : List Char) : words (gap ++ text) = words text := by
  induction gap with
  | nil => rfl
  | cons c gap ih =>
      rw [List.cons_append, words_cons_of_isBlank (blank c List.mem_cons_self)]
      exact ih fun d member => blank d (List.mem_cons_of_mem _ member)

/-- A text of blanks has no words. -/
theorem words_eq_nil_of_isBlank {gap : List Char} (blank : ∀ c ∈ gap, isBlank c = true) :
    words gap = [] := by
  simpa [words] using words_append_of_isBlank blank []

/-- A word that ends where the text ends, or before a blank, is the first of the words. -/
theorem words_append_of_isWord {word rest : List Char} (isWord : IsWord word)
    (ends : ∀ c, rest.head? = some c → isBlank c = true) :
    words (word ++ rest) = word :: words rest := by
  obtain ⟨some, solid⟩ := isWord
  induction word with
  | nil => exact absurd rfl some
  | cons c word ih =>
      have first : isBlank c = false := solid c List.mem_cons_self
      cases word with
      | nil =>
          cases rest with
          | nil => simp [words, first]
          | cons d rest => simp [words, first, ends d rfl]
      | cons d word =>
          have second : isBlank d = false := solid d (by simp)
          have later := ih (by simp) fun e member => solid e (List.mem_cons_of_mem _ member)
          rw [List.cons_append] at later
          simp [words, first, second, later, consFirst]

/-- A blank may be put in front of a text without changing its runs. -/
theorem Runs.cons_of_isBlank {c : Char} {text : List Char} {row : List (List Char)}
    (runs : Runs text row) (blank : isBlank c = true) : Runs (c :: text) row := by
  cases runs with
  | none others => exact .none (by simpa [blank] using others)
  | @run gap word rest others blanks isWord ends later =>
      exact @Runs.run (c :: gap) word rest others (by simpa [blank] using blanks) isWord ends later

/-- A character that is not blank may be put in front of a text that starts with another one: it becomes
part of the first run. -/
theorem Runs.cons_of_not_isBlank {c d : Char} {rest : List Char} {row : List (List Char)}
    (runs : Runs (d :: rest) row) (first : isBlank c = false) (second : isBlank d = false) :
    Runs (c :: d :: rest) (consFirst c row) := by
  generalize same : d :: rest = text at runs
  cases runs with
  | none blank =>
      have contrary := blank d (same ▸ List.mem_cons_self)
      simp [second] at contrary
  | @run gap word rest' others blank isWord ends later =>
      -- The text starts with no blank, so there is no gap before its first run.
      cases gap with
      | cons e gap =>
          obtain ⟨rfl, -⟩ := List.cons.inj same
          simp [second] at blank
      | nil =>
          refine @Runs.run [] (c :: word) rest' others (by simp) ⟨by simp, ?_⟩ ends later
          intro e member
          rcases List.mem_cons.1 member with rfl | inside
          · exact first
          · exact isWord.2 e inside

theorem runs_words (text : List Char) : Runs text (words text) := by
  fun_induction words text with
  | case1 => exact .none (by simp)
  | case2 c blank => exact .none (by simpa using blank)
  | case3 c notBlank =>
      exact @Runs.run [] [c] [] [] (by simp) ⟨by simp, by simpa using notBlank⟩ (by simp)
        (.none (by simp))
  | case4 c d rest blank ih => exact ih.cons_of_isBlank blank
  | case5 c d rest notBlank blank ih =>
      exact @Runs.run [] [c] (d :: rest) _ (by simp) ⟨by simp, by simpa using notBlank⟩
        (by simpa using blank) ih
  | case6 c d rest notBlank notBlank' ih =>
      exact ih.cons_of_not_isBlank (by simpa using notBlank) (by simpa using notBlank')

theorem Runs.words_eq {text : List Char} {row : List (List Char)} (runs : Runs text row) :
    words text = row := by
  induction runs with
  | none blank => exact words_eq_nil_of_isBlank blank
  | run blank isWord ends later ih =>
      rw [List.append_assoc, words_append_of_isBlank blank, words_append_of_isWord isWord ends, ih]

/-- The words of a text are its runs, and it has no other runs. -/
theorem words_eq_iff_runs {text : List Char} {row : List (List Char)} :
    words text = row ↔ Runs text row :=
  ⟨fun same => same ▸ runs_words text, Runs.words_eq⟩

/-- Every word of a text is one. -/
theorem isWord_of_mem_words {text word : List Char} (member : word ∈ words text) : IsWord word :=
  ⟨ne_nil_of_mem_words member, fun _ inside => not_isBlank_of_mem_words member inside⟩

/-! ### Texts without leading blanks -/

/-- Leading blanks belong to no word. -/
theorem words_trimStart (text : List Char) : words (trimStart text) = words text := by
  have blank : ∀ c ∈ text.takeWhile isBlank, isBlank c = true := fun c member =>
    List.mem_takeWhile_imp member
  have whole := words_append_of_isBlank blank (trimStart text)
  rwa [trimStart, List.takeWhile_append_dropWhile, eq_comm] at whole

/-- Without its leading blanks a text starts as its first word does, if it has one. -/
theorem head?_trimStart (text : List Char) :
    (trimStart text).head? = (words text).head?.bind List.head? := by
  rw [← words_trimStart]
  have solid : ∀ c, (trimStart text).head? = some c → isBlank c = false := by
    intro c first
    have stopped := List.head?_dropWhile_not isBlank text
    rw [trimStart] at first
    simpa [first] using stopped
  generalize trimStart text = trimmed at solid
  have runs := runs_words trimmed
  generalize words trimmed = row at runs
  cases runs with
  | none blank =>
      cases trimmed with
      | nil => rfl
      | cons c rest => simp [solid c rfl] at blank
  | @run gap word rest others blank isWord ends later =>
      cases gap with
      | cons c gap => simp [solid c (by simp)] at blank
      | nil =>
          obtain ⟨c, word, rfl⟩ := List.exists_cons_of_ne_nil isWord.1
          rfl

/-! ### Words one space apart -/

/-- Words that are put one space apart are read back as they were. -/
theorem words_intercalate {row : List (List Char)} (isWord : ∀ word ∈ row, IsWord word) :
    words ([' '].intercalate row) = row := by
  induction row with
  | nil => rfl
  | cons word others ih =>
      have first := isWord word List.mem_cons_self
      have later := ih fun other member => isWord other (List.mem_cons_of_mem _ member)
      cases others with
      | nil =>
          have alone := @words_append_of_isWord word [] first (by simp)
          simpa [words] using alone
      | cons next others =>
          have space : isBlank ' ' = true := by rfl
          rw [List.intercalate_cons_cons, List.append_assoc, List.singleton_append,
            words_append_of_isWord first (by simp [space]), words_cons_of_isBlank space, later]

end JobShell.Text
