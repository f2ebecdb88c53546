/-
Module: JobShell.Proofs.MarkedLines
Purpose: Numbers may be put in for the marks of a whole line before it is read, or for those of the command
  after it has been read.  A number is a word, so no word of the line goes or comes or grows together with
  another one; and it holds no mark of a line, so every word keeps its role.
Main exports: PidMark.Inert, PidMark.words_substituteChars, Command.readWords_substitute,
  Command.parse_substitute
-/
import JobShell.Proofs.LineGrammar
import JobShell.Proofs.PidMarks

namespace JobShell

namespace PidMark

/-- A text that can be put into a line without being taken for anything: it is a word, it holds no mark of a
line, and it does not look like the start of a comment. -/
structure Inert (pid : List Char) : Prop where
  isWord : Text.IsWord pid
  noInput : '<' ∉ pid
  noOutput : '>' ∉ pid
  noBackground : '&' ∉ pid
  noComment : pid.head? ≠ some '#'

/-- Decimal digits are inert, with signs or without. -/
theorem inert_of_isNumeral {pid : List Char} (something : pid ≠ [])
    (numeral : ∀ c ∈ pid, c.isDigit = true ∨ c = '-') : Inert pid := by
  have apart {c : Char} (other : c.isDigit = false ∧ c ≠ '-') : c ∉ pid := by
    intro member
    rcases numeral c member with digit | sign
    · rw [digit] at other
      exact Bool.noConfusion other.1
    · exact other.2 sign
  refine ⟨⟨something, ?_⟩, apart (by decide), apart (by decide), apart (by decide), ?_⟩
  · intro c member
    rcases numeral c member with digit | rfl
    · simp only [Char.isDigit, Bool.and_eq_true, decide_eq_true_eq, UInt32.le_iff_toNat_le] at digit
      simp only [Text.isBlank, Char.toNat]
      simp at digit ⊢
      omega
    · rfl
  · intro first
    have member : '#' ∈ pid := List.mem_of_mem_head? first
    exact apart (by decide) member

/-- Decimal digits are inert. -/
theorem inert_of_isDigit {pid : List Char} (something : pid ≠ [])
    (digits : ∀ c ∈ pid, c.isDigit = true) : Inert pid :=
  inert_of_isNumeral something fun c member => .inl (digits c member)

section

variable {pid : List Char}

/-! ### Characters that stay -/

/-- What stands in the outcome was put in or stood in the text. -/
theorem mem_of_mem_substituteChars {c : Char} {text : List Char} (member : c ∈ substituteChars pid text) :
    c ∈ pid ∨ c ∈ text := by
  induction text using substituteChars.induct with
  | case1 => exact .inr member
  | case2 d => exact .inr member
  | case3 d e rest pair ih =>
      rw [substituteChars, if_pos pair] at member
      rcases List.mem_append.1 member with number | later
      · exact .inl number
      · exact (ih later).imp id fun inside => by simp [inside]
  | case4 d e rest apart ih =>
      rw [substituteChars, if_neg apart] at member
      rcases List.mem_cons.1 member with rfl | later
      · exact .inr List.mem_cons_self
      · exact (ih later).imp id (List.mem_cons_of_mem _)

/-- A character that is no dollar sign stays in the text. -/
theorem mem_substituteChars_of_mem {c : Char} {text : List Char} (plain : c ≠ '$') (member : c ∈ text) :
    c ∈ substituteChars pid text := by
  induction text using substituteChars.induct with
  | case1 => exact member
  | case2 d => exact member
  | case3 d e rest pair ih =>
      obtain ⟨rfl, rfl⟩ := pair
      have inside : c ∈ rest := by simpa [plain] using member
      rw [substituteChars_pair]
      exact List.mem_append_right _ (ih inside)
  | case4 d e rest apart ih =>
      rw [substituteChars, if_neg apart]
      rcases List.mem_cons.1 member with rfl | later
      · exact List.mem_cons_self
      · exact List.mem_cons_of_mem _ (ih later)

/-- A text that is not empty does not become empty. -/
theorem substituteChars_ne_nil (something : pid ≠ []) {text : List Char} (some : text ≠ []) :
    substituteChars pid text ≠ [] := by
  cases text using substituteChars.fun_cases with
  | case1 => exact absurd rfl some
  | case2 c => exact some
  | case3 c d rest pair =>
      rw [substituteChars, if_pos pair]
      exact List.append_ne_nil_of_left_ne_nil something _
  | case4 c d rest apart =>
      rw [substituteChars, if_neg apart]
      exact List.cons_ne_nil _ _

/-- A mark of a line stands in a word afterwards exactly if it stood there before. -/
theorem mem_substituteChars_iff {mark : Char} (plain : mark ≠ '$') (apart : mark ∉ pid)
    {text : List Char} : mark ∈ substituteChars pid text ↔ mark ∈ text := by
  constructor
  · intro member
    rcases mem_of_mem_substituteChars member with number | inside
    · exact absurd number apart
    · exact inside
  · exact mem_substituteChars_of_mem plain

/-- A word looks like the start of a comment afterwards exactly if it did before. -/
theorem head?_substituteChars_iff (inert : Inert pid) {text : List Char} :
    (substituteChars pid text).head? = some '#' ↔ text.head? = some '#' := by
  obtain ⟨first, others, rfl⟩ := List.exists_cons_of_ne_nil inert.isWord.1
  have other : first ≠ '#' := by simpa using inert.noComment
  cases text using substituteChars.fun_cases with
  | case1 => rfl
  | case2 c => rfl
  | case3 c d rest pair =>
      obtain ⟨rfl, rfl⟩ := pair
      simp [substituteChars_pair, other]
  | case4 c d rest apart => simp [substituteChars, apart]

/-! ### Words -/

/-- Nothing in front that holds no dollar sign is changed. -/
theorem substituteChars_append_of_notMem {front : List Char} (plain : '$' ∉ front) (rest : List Char) :
    substituteChars pid (front ++ rest) = front ++ substituteChars pid rest := by
  induction front with
  | nil => rfl
  | cons c front ih =>
      have first : c ≠ '$' := fun same => plain (same ▸ List.mem_cons_self)
      have others : '$' ∉ front := fun inside => plain (List.mem_cons_of_mem _ inside)
      rw [List.cons_append, substituteChars_cons first, ih others, List.cons_append]

/-- No mark reaches over the place at which a text goes on with something else than a dollar sign. -/
theorem substituteChars_append {rest : List Char} (ends : rest.head? ≠ some '$') (front : List Char) :
    substituteChars pid (front ++ rest) = substituteChars pid front ++ substituteChars pid rest := by
  induction front using substituteChars.induct with
  | case1 => rfl
  | case2 c =>
      by_cases dollar : c = '$'
      · subst dollar
        exact substituteChars_lone ends
      · exact substituteChars_cons dollar rest
  | case3 c d front pair ih =>
      obtain ⟨rfl, rfl⟩ := pair
      rw [List.cons_append, List.cons_append, substituteChars_pair, substituteChars_pair, ih,
        List.append_assoc]
  | case4 c d front apart ih =>
      rw [List.cons_append, List.cons_append] at *
      rw [substituteChars, if_neg apart, ih, substituteChars, if_neg apart, List.cons_append]

theorem isBlank_dollar : Text.isBlank '$' = false := by rfl

/-- A word stays one. -/
theorem isWord_substituteChars (inert : Inert pid) {word : List Char} (isWord : Text.IsWord word) :
    Text.IsWord (substituteChars pid word) := by
  refine ⟨substituteChars_ne_nil inert.isWord.1 isWord.1, fun c member => ?_⟩
  rcases mem_of_mem_substituteChars member with number | inside
  · exact inert.isWord.2 c number
  · exact isWord.2 c inside

/-- Blanks in front of a text stay as they are. -/
theorem substituteChars_append_of_isBlank {gap : List Char} (blank : ∀ c ∈ gap, Text.isBlank c = true)
    (rest : List Char) : substituteChars pid (gap ++ rest) = gap ++ substituteChars pid rest := by
  apply substituteChars_append_of_notMem
  intro dollar
  have contrary := blank '$' dollar
  rw [isBlank_dollar] at contrary
  exact Bool.noConfusion contrary

/-- A text that ends or goes on with a blank does so afterwards. -/
theorem head?_substituteChars_of_isBlank {rest : List Char}
    (ends : ∀ c, rest.head? = some c → Text.isBlank c = true) :
    (substituteChars pid rest).head? = rest.head? ∧ rest.head? ≠ some '$' := by
  cases rest with
  | nil => exact ⟨rfl, by simp⟩
  | cons c rest =>
      have plain : c ≠ '$' := by
        rintro rfl
        have contrary := ends '$' rfl
        rw [isBlank_dollar] at contrary
        exact Bool.noConfusion contrary
      refine ⟨?_, by simpa using plain⟩
      rw [substituteChars_cons plain, List.head?_cons, List.head?_cons]

/-- The runs of a text become runs, each for itself. -/
theorem runs_substituteChars (inert : Inert pid) {text : List Char} {row : List (List Char)}
    (runs : Text.Runs text row) :
    Text.Runs (substituteChars pid text) (row.map (substituteChars pid)) := by
  induction runs with
  | @none gap blank =>
      have same : substituteChars pid (gap ++ []) = gap ++ substituteChars pid [] :=
        substituteChars_append_of_isBlank blank []
      rw [List.append_nil] at same
      rw [same, substituteChars, List.append_nil]
      exact .none blank
  | @run gap word rest others blank isWord ends later ih =>
      have same : (substituteChars pid rest).head? = rest.head? ∧ rest.head? ≠ some '$' :=
        head?_substituteChars_of_isBlank ends
      obtain ⟨head, apart⟩ := same
      rw [List.append_assoc, substituteChars_append_of_isBlank blank, substituteChars_append apart,
        ← List.append_assoc, List.map_cons]
      exact .run blank (isWord_substituteChars inert isWord) (head ▸ ends) ih

/-- The words of a text are changed each for itself. -/
theorem words_substituteChars (inert : Inert pid) (text : List Char) :
    Text.words (substituteChars pid text) = (Text.words text).map (substituteChars pid) :=
  (runs_substituteChars inert (Text.runs_words text)).words_eq

end

end PidMark

namespace Command

open PidMark (Inert)

/-! ### Reading words -/

/-- No word changes its role. -/
theorem HasRole.substitute {pid word : String} {role : Role} (inert : Inert pid.toList)
    (has : HasRole word role) : HasRole (PidMark.substitute word pid) role := by
  have stays {mark : Char} (plain : mark ≠ '$') (apart : mark ∉ pid.toList) :
      mark ∈ (PidMark.substitute word pid).toList ↔ mark ∈ word.toList := by
    rw [PidMark.substitute, String.toList_ofList]
    exact PidMark.mem_substituteChars_iff plain apart
  have input := stays (by decide) inert.noInput
  have output := stays (by decide) inert.noOutput
  have background := stays (by decide) inert.noBackground
  cases has with
  | input marked => exact .input (input.2 marked)
  | output noInput marked => exact .output (input.not.2 noInput) (output.2 marked)
  | background noInput noOutput marked =>
      exact .background (input.not.2 noInput) (output.not.2 noOutput) (background.2 marked)
  | argument noInput noOutput noBackground =>
      exact .argument (input.not.2 noInput) (output.not.2 noOutput) (background.not.2 noBackground)

theorem roleOf_substitute {pid : String} (inert : Inert pid.toList) (word : String) :
    roleOf (PidMark.substitute word pid) = roleOf word := by
  apply roleOf_eq_iff.2
  exact HasRole.substitute inert (roleOf_eq_iff.1 rfl)

theorem setPath_substitutePid (c : Command) (pid path : String) (direction : Direction) :
    (c.setPath path direction).substitutePid pid =
      (c.substitutePid pid).setPath (PidMark.substitute path pid) direction := by
  rw [substitutePid_eq, substitutePid_eq]
  cases direction <;> rfl

theorem argument_substitutePid (c : Command) (pid word : String) :
    ({ c with argv := c.argv ++ [word] } : Command).substitutePid pid =
      { c.substitutePid pid with
        argv := (c.substitutePid pid).argv ++ [PidMark.substitute word pid] } := by
  rw [substitutePid_eq, substitutePid_eq, List.map_append, List.map_singleton]

/-- Changed words are read as the changed command, on top of a changed beginning, and they are refused for
the same reason. -/
theorem readWords_substitute {pid : String} (inert : Inert pid.toList) (words : List String)
    (soFar : Command) :
    readWords (soFar.substitutePid pid) (words.map fun word => PidMark.substitute word pid) =
      (readWords soFar words).map fun c => c.substitutePid pid := by
  fun_induction readWords soFar words with
  | case1 soFar => rfl
  | case2 soFar word rest argument ih =>
      rw [List.map_cons, readWords, roleOf_substitute inert, argument]
      exact (argument_substitutePid soFar pid word) ▸ ih
  | case3 soFar word rest background =>
      rw [List.map_cons, readWords, roleOf_substitute inert, background]
      rfl
  | case4 soFar word direction redirecting =>
      rw [List.map_cons, readWords, roleOf_substitute inert, redirecting]
      rfl
  | case5 soFar word direction redirecting target others given =>
      have given' : ((soFar.substitutePid pid).path direction).isSome = true := by
        rw [path_substitutePid, Option.isSome_map, given]
      rw [List.map_cons, List.map_cons, readWords, roleOf_substitute inert, redirecting]
      exact if_pos given'
  | case6 soFar word direction redirecting target others free ih =>
      have free' : ¬ ((soFar.substitutePid pid).path direction).isSome = true := by
        rw [path_substitutePid, Option.isSome_map]
        exact free
      rw [List.map_cons, List.map_cons, readWords, roleOf_substitute inert, redirecting, ← ih,
        setPath_substitutePid]
      exact if_neg free'

theorem ofWords_substitute {pid : String} (inert : Inert pid.toList) (words : List String) :
    ofWords (words.map fun word => PidMark.substitute word pid) =
      (ofWords words).map fun c => c.substitutePid pid :=
  readWords_substitute inert words {}

/-- Putting a number in for the marks of a line and then reading it is the same as reading the line and then
putting the number in for the marks of the command, if it holds one; and where it is refused, it is refused for
the same reason. -/
theorem parse_substitute {pid : String} (something : pid ≠ "")
    (digits : ∀ c ∈ pid.toList, c.isDigit = true) (line : String) :
    parse (PidMark.substitute line pid) =
      (parse line).map (Option.map fun c => c.substitutePid pid) := by
  have inert : Inert pid.toList := by
    apply PidMark.inert_of_isDigit
    · simpa using something
    · exact digits
  have words := PidMark.words_substituteChars inert line.toList
  have marked : (PidMark.substitute line pid).toList = PidMark.substituteChars pid.toList line.toList := by
    rw [PidMark.substitute, String.toList_ofList]
  rw [← marked] at words
  cases row : Text.words line.toList with
  | nil =>
      rw [row, List.map_nil] at words
      rw [parse_of_wordless words, parse_of_wordless row]
      rfl
  | cons first others =>
      rw [row, List.map_cons] at words
      rw [parse_of_words words, parse_of_words row]
      by_cases comment : first.head? = some '#'
      · rw [if_pos comment, if_pos ((PidMark.head?_substituteChars_iff inert).2 comment)]
        rfl
      · rw [if_neg comment, if_neg (comment ∘ (PidMark.head?_substituteChars_iff inert).1)]
        have changed : (PidMark.substituteChars pid.toList first ::
            others.map (PidMark.substituteChars pid.toList)).map String.ofList =
              ((first :: others).map String.ofList).map fun word => PidMark.substitute word pid := by
          simp [PidMark.substitute]
        rw [changed, ofWords_substitute inert]
        cases ofWords ((first :: others).map String.ofList) <;> rfl

/-- Two marks next to each other in a path, and a line that is refused. -/
theorem parse_substitute_paths :
    parse (PidMark.substitute "cat$$ < $$$$ $&" "42") =
      .ok (some { argv := ["cat42"], input := some "4242", background := true }) ∧
    parse (PidMark.substitute "cat < $$ < b" "42") = .error (.duplicate '<') := by
  have digits : ∀ c ∈ "42".toList, c.isDigit = true := by simp
  rw [parse_substitute (by decide) digits, parse_substitute (by decide) digits]
  exact ⟨by decide, by decide⟩

end Command

end JobShell
