/-
Module: JobShell.Proofs.LineRendering
Purpose: Which commands a line can mean at all, and that each of them is read back from the line that prints
  it.  Redirections are printed first, since behind one a word may start with the comment mark.
Main exports: Command.Printable, Command.parse_render_exactly
-/
import JobShell.Proofs.LineGrammar

namespace JobShell

open Text (IsWord)

/-- What a command is like that stands on some line.  Its words hold no mark, while its paths may look like
anything.  Without a path its first word starts the line, so it must not make the line a comment. -/
structure Command.Printable (c : Command) : Prop where
  argument : ∀ word ∈ c.argv,
    IsWord word.toList ∧ '<' ∉ word.toList ∧ '>' ∉ word.toList ∧ '&' ∉ word.toList
  target : ∀ direction path, c.path direction = some path → IsWord path.toList
  noComment : c.input = none → c.output = none →
    ∀ word, c.argv.head? = some word → word.toList.head? ≠ some '#'
  something : c ≠ {}

/-! ### What is read is printable -/

namespace LinePart

theorem argument?_eq_some {part : LinePart} {word : String} :
    part.argument? = some word ↔ part = .argument word := by
  cases part <;> simp [argument?]

theorem target?_eq_some {part : LinePart} {direction : Direction} {path : String} :
    part.target? direction = some path ↔ part = .redirection direction path := by
  cases part <;> simp [target?]

end LinePart

namespace FormsParts

variable {words : List String} {parts : List LinePart} {last : PartsEnd}

/-- An argument is one of the words, and it holds no mark. -/
theorem mem_of_argument (forms : FormsParts words parts last) {word : String}
    (member : .argument word ∈ parts) : word ∈ words ∧ Command.HasRole word .argument := by
  induction forms with
  | exhausted => cases member
  | cut => cases member
  | background => cases member
  | redirection _ _ ih =>
      obtain ⟨inside, role⟩ := ih (by simpa using member)
      exact ⟨by simp [inside], role⟩
  | argument role _ ih =>
      rcases List.mem_cons.1 member with same | later
      · cases same
        exact ⟨List.mem_cons_self, role⟩
      · exact ⟨List.mem_cons_of_mem _ (ih later).1, (ih later).2⟩

/-- A target is one of the words. -/
theorem mem_of_redirection (forms : FormsParts words parts last) {direction : Direction}
    {path : String} (member : .redirection direction path ∈ parts) : path ∈ words := by
  induction forms with
  | exhausted => cases member
  | cut => cases member
  | background => cases member
  | argument _ _ ih => exact List.mem_cons_of_mem _ (ih (by simpa using member))
  | redirection _ _ ih =>
      rcases List.mem_cons.1 member with same | later
      · cases same
        simp
      · simp [ih later]

/-- Where nothing is redirected, the first argument is the first word. -/
theorem head_of_unredirected {first word : String} {others : List String}
    (forms : FormsParts (first :: others) parts last) (plain : directionsOf parts = [])
    (head : (parts.filterMap LinePart.argument?).head? = some word) : word = first := by
  cases forms with
  | cut => simp at head
  | background => simp at head
  | redirection => simp [directionsOf, LinePart.direction?] at plain
  | argument => simpa [LinePart.argument?, eq_comm] using head

/-- Words that come to a command make one with something in it. -/
theorem commandOf_ne_empty {first : String} {others : List String}
    (forms : FormsParts (first :: others) parts last) (whole : ∀ direction, last ≠ .cut direction) :
    commandOf parts (decide (last = .background)) ≠ {} := by
  intro empty
  cases forms with
  | cut => exact whole _ rfl
  | background => exact absurd (congrArg Command.background empty) (by simp [commandOf])
  | argument => exact absurd (congrArg Command.argv empty) (by simp [commandOf, LinePart.argument?])
  | @redirection word target direction rest parts last role others =>
      have given := (isSome_path_commandOf (decide (last = .background))).2
        (by simp [directionsOf, LinePart.direction?] :
          direction ∈ directionsOf (.redirection direction target :: parts))
      rw [empty] at given
      cases direction <;> simp [Command.path] at given

end FormsParts

namespace Command

/-- A line that means a command has words, does not start a comment, and its parts make the command. -/
theorem exists_parts_of_parse {line : String} {c : Command} (read : parse line = .ok (some c)) :
    ∃ first others parts last, Text.words line.toList = first :: others ∧ first.head? ≠ some '#' ∧
      FormsParts ((first :: others).map String.ofList) parts last ∧
      (∀ direction, last ≠ .cut direction) ∧ c = commandOf parts (decide (last = .background)) := by
  cases words : Text.words line.toList with
  | nil => simp [parse_of_wordless words] at read
  | cons first others =>
      rw [parse_of_words words] at read
      split_ifs at read with marked
      · simp at read
      obtain ⟨parts, last, forms⟩ :=
        FormsParts.exists_of_words ((first :: others).map String.ofList)
      have comes := (ofWords_eq_iff forms).1 rfl
      generalize ofWords ((first :: others).map String.ofList) = verdict at read comes
      cases comes with
      | duplicate => cases read
      | missingTarget => cases read
      | command _ whole =>
          refine ⟨first, others, parts, last, rfl, marked, forms, whole, ?_⟩
          simpa [Except.map, eq_comm] using read

theorem printable_of_parse {line : String} {c : Command} (read : parse line = .ok (some c)) :
    Printable c := by
  obtain ⟨first, others, parts, last, words, unmarked, forms, whole, rfl⟩ :=
    exists_parts_of_parse read
  have isWord : ∀ word ∈ (first :: others).map String.ofList, IsWord word.toList := by
    intro word member
    obtain ⟨chars, inside, rfl⟩ := List.mem_map.1 member
    rw [String.toList_ofList]
    exact Text.isWord_of_mem_words (words ▸ inside)
  refine ⟨fun word member => ?_, fun direction path given => ?_, fun noInput noOutput word head => ?_,
    forms.commandOf_ne_empty whole⟩
  · obtain ⟨part, inside, same⟩ := List.mem_filterMap.1 member
    obtain rfl := LinePart.argument?_eq_some.1 same
    obtain ⟨inside, role⟩ := forms.mem_of_argument inside
    cases role with
    | argument noInput noOutput noBackground =>
        exact ⟨isWord word inside, noInput, noOutput, noBackground⟩
  · rw [path_commandOf] at given
    obtain ⟨part, inside, same⟩ := List.mem_filterMap.1 (List.mem_of_mem_head? given)
    obtain rfl := LinePart.target?_eq_some.1 same
    exact isWord path (forms.mem_of_redirection inside)
  · have plain : directionsOf parts = [] := by
      refine List.eq_nil_iff_forall_not_mem.2 fun direction member => ?_
      have given := (isSome_path_commandOf (decide (last = .background))).2 member
      cases direction with
      | input => simp [Command.path, noInput] at given
      | output => simp [Command.path, noOutput] at given
    rw [forms.head_of_unredirected plain head, String.toList_ofList]
    exact unmarked

/-! ### What is printable is read back -/

/-- A redirecting word and its target are read as a path. -/
theorem readWords_redirection {soFar : Command} {direction : Direction} {path : String}
    (fresh : soFar.path direction = none) (rest : List String) :
    readWords soFar (direction.mark.toString :: path :: rest) =
      readWords (soFar.setPath path direction) rest := by
  have role : roleOf direction.mark.toString = .redirect direction := by cases direction <;> decide
  simp only [readWords, role, fresh, Option.isSome_none, Bool.false_eq_true, if_false]

/-- Words without marks are read as arguments. -/
theorem readWords_arguments {arguments : List String}
    (plain : ∀ word ∈ arguments, roleOf word = .argument) (soFar : Command) (rest : List String) :
    readWords soFar (arguments ++ rest) =
      readWords { soFar with argv := soFar.argv ++ arguments } rest := by
  induction arguments generalizing soFar with
  | nil => simp
  | cons word arguments ih =>
      have later := ih fun other member => plain other (List.mem_cons_of_mem _ member)
      rw [List.cons_append, readWords, plain word List.mem_cons_self]
      simp [later]

/-- The last words of a line are read as its background mark, if it has one. -/
theorem readWords_background (soFar : Command) (background : Bool) :
    readWords soFar (if background then [backgroundMark.toString] else []) =
      .ok { soFar with background := soFar.background || background } := by
  have role : roleOf backgroundMark.toString = .background := by decide
  cases background with
  | false => simp [readWords]
  | true => simp only [if_true, readWords, role, Bool.or_true]

/-- The words that print a command are read as it. -/
theorem ofWords_toWords {c : Command} (printable : Printable c) : ofWords c.toWords = .ok c := by
  have plain : ∀ word ∈ c.argv, roleOf word = .argument := by
    intro word member
    obtain ⟨-, noInput, noOutput, noBackground⟩ := printable.argument word member
    exact roleOf_eq_iff.2 (.argument noInput noOutput noBackground)
  have behind (soFar : Command) := readWords_arguments plain soFar
    (if c.background then [backgroundMark.toString] else [])
  obtain ⟨argv, input, output, background⟩ := c
  simp only [readWords_background] at behind
  cases input with
  | none =>
      cases output with
      | none => simpa [ofWords, toWords] using behind {}
      | some output =>
          have front := @readWords_redirection {} .output output rfl
          simpa [ofWords, toWords, setPath] using (front _).trans (behind _)
  | some input =>
      have front := @readWords_redirection {} .input input rfl
      cases output with
      | none => simpa [ofWords, toWords, setPath] using (front _).trans (behind _)
      | some output =>
          have next := @readWords_redirection { input := some input } .output output rfl
          simpa [ofWords, toWords, setPath] using (front _).trans ((next _).trans (behind _))

/-- The mark of a redirection and its target are words of a text, if the target is one. -/
theorem isWord_of_mem_redirection {direction : Direction} {path word : String}
    (target : IsWord path.toList) (member : word ∈ [direction.mark.toString, path]) :
    IsWord word.toList := by
  rcases List.mem_cons.1 member with rfl | last
  · cases direction <;> decide
  · exact List.mem_singleton.1 last ▸ target

/-- The words that print a command are words of a text. -/
theorem isWord_of_mem_toWords {c : Command} (printable : Printable c) {word : String}
    (member : word ∈ c.toWords) : IsWord word.toList := by
  rw [toWords] at member
  rcases List.mem_append.1 member with front | last
  · rcases List.mem_append.1 front with paths | argument
    · rcases List.mem_append.1 paths with input | output
      · split at input
        · next path given => exact isWord_of_mem_redirection (printable.target .input path given) input
        · cases input
      · split at output
        · next path given => exact isWord_of_mem_redirection (printable.target .output path given) output
        · cases output
    · exact (printable.argument word argument).1
  · split_ifs at last
    · obtain rfl := List.mem_singleton.1 last
      decide
    · cases last

/-- There is something to print, and it does not start a comment. -/
theorem toWords_eq_cons {c : Command} (printable : Printable c) :
    ∃ first others, c.toWords = first :: others ∧ first.toList.head? ≠ some '#' := by
  obtain ⟨argv, input, output, background⟩ := c
  cases input with
  | some input => exact ⟨_, _, rfl, by decide⟩
  | none =>
      cases output with
      | some output => exact ⟨_, _, rfl, by decide⟩
      | none =>
          cases argv with
          | cons word argv => exact ⟨_, _, rfl, printable.noComment rfl rfl word rfl⟩
          | nil =>
              cases background with
              | true => exact ⟨_, _, rfl, by decide⟩
              | false => exact absurd rfl printable.something

theorem parse_render {c : Command} (printable : Printable c) : parse (render c) = .ok (some c) := by
  obtain ⟨first, others, split, unmarked⟩ := toWords_eq_cons printable
  have words : Text.words (render c).toList = first.toList :: others.map String.toList := by
    have isWord : ∀ word ∈ c.toWords.map String.toList, IsWord word := by
      intro word member
      obtain ⟨word, inside, rfl⟩ := List.mem_map.1 member
      exact isWord_of_mem_toWords printable inside
    rw [render, String.toList_intercalate]
    exact (Text.words_intercalate isWord).trans (by rw [split, List.map_cons])
  have back : (first.toList :: others.map String.toList).map String.ofList = c.toWords := by
    simp [split]
  rw [parse_of_words words, if_neg unmarked, back, ofWords_toWords printable]
  rfl

/-- The commands that lines mean are exactly the printable ones, each is read back from the line that prints
it, and so every line means what the printed line of its command means. -/
theorem parse_render_exactly :
    (∀ c, (∃ line, parse line = .ok (some c)) ↔ Printable c) ∧
    (∀ c, Printable c → parse (render c) = .ok (some c)) ∧
    (∀ line c, parse line = .ok (some c) → parse (render c) = parse line) := by
  refine ⟨fun c => ⟨?_, fun printable => ⟨render c, parse_render printable⟩⟩,
    fun c => parse_render, fun line c read => ?_⟩
  · rintro ⟨line, read⟩
    exact printable_of_parse read
  · rw [read, parse_render (printable_of_parse read)]

/-- A command whose paths look like marks and whose first word looks like the start of a comment. -/
theorem parse_render_exactly_marked :
    Printable { argv := ["#all", "-n"], input := some "&", output := some "<", background := true } ∧
    parse "< & > < #all -n &" =
      .ok (some { argv := ["#all", "-n"], input := some "&", output := some "<", background := true }) := by
  have printable :
      Printable { argv := ["#all", "-n"], input := some "&", output := some "<", background := true } := by
    refine ⟨?_, ?_, by simp, by simp⟩
    · simp only [List.mem_cons, List.not_mem_nil, or_false, forall_eq_or_imp, forall_eq]
      decide
    · intro direction path given
      cases direction <;> obtain rfl := Option.some.inj given <;> decide
  exact ⟨printable, parse_render_exactly.2.1 _ printable⟩

end Command

end JobShell
