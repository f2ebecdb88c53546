/-
Module: JobShell.Proofs.LineGrammar
Purpose: The grammar of a line, stated apart from the way in which a line is read: its words form parts, the
  parts end with the words, at a background mark or at a redirection without a target, and parts and end
  together decide what the line means.  A line means exactly what it is read as.
Main exports: Command.HasRole, LinePart, PartsEnd, FormsParts, FirstRepeated, Verdict, Command.Means,
  Command.parse_eq_iff_means
-/
import JobShell.Command
import JobShell.Proofs.Words

namespace JobShell

open Command (Role roleOf readWords)

/-! ### The grammar -/

/-- The role of a word by the marks that it holds anywhere. -/
inductive Command.HasRole (word : String) : Role → Prop where
  | input (marked : '<' ∈ word.toList) : HasRole word (.redirect .input)
  | output (noInput : '<' ∉ word.toList) (marked : '>' ∈ word.toList) :
      HasRole word (.redirect .output)
  | background (noInput : '<' ∉ word.toList) (noOutput : '>' ∉ word.toList)
      (marked : '&' ∈ word.toList) : HasRole word .background
  | argument (noInput : '<' ∉ word.toList) (noOutput : '>' ∉ word.toList)
      (noBackground : '&' ∉ word.toList) : HasRole word .argument

/-- A part of a line: a redirecting word together with its target, or an argument. -/
inductive LinePart where
  | redirection (direction : Direction) (target : String)
  | argument (word : String)
deriving Repr, DecidableEq

/-- Where the parts of a line end: with its words, at a background mark, or at a redirecting word that no
target follows. -/
inductive PartsEnd where
  | exhausted
  | background
  | cut (direction : Direction)
deriving Repr, DecidableEq

open Command (HasRole) in
/-- The parts that words form from left to right.  A target may look like anything, and nothing is said of
the words behind a background mark. -/
inductive FormsParts : List String → List LinePart → PartsEnd → Prop where
  | exhausted : FormsParts [] [] .exhausted
  | redirection {word target : String} {direction : Direction} {rest : List String}
      {parts : List LinePart} {last : PartsEnd} (role : HasRole word (.redirect direction))
      (others : FormsParts rest parts last) :
      FormsParts (word :: target :: rest) (.redirection direction target :: parts) last
  | cut {word : String} {direction : Direction} (role : HasRole word (.redirect direction)) :
      FormsParts [word] [] (.cut direction)
  | background {word : String} {rest : List String} (role : HasRole word .background) :
      FormsParts (word :: rest) [] .background
  | argument {word : String} {rest : List String} {parts : List LinePart} {last : PartsEnd}
      (role : HasRole word .argument) (others : FormsParts rest parts last) :
      FormsParts (word :: rest) (.argument word :: parts) last

namespace LinePart

/-- The stream that a part redirects. -/
def direction? : LinePart → Option Direction
  | redirection direction _ => some direction
  | argument _ => none

/-- The target of a part that redirects a certain stream. -/
def target? (direction : Direction) : LinePart → Option String
  | redirection other target => if other = direction then some target else none
  | argument _ => none

/-- The word of a part that is an argument. -/
def argument? : LinePart → Option String
  | redirection _ _ => none
  | argument word => some word

end LinePart

/-- The streams that some parts redirect, in their order. -/
def directionsOf (parts : List LinePart) : List Direction :=
  parts.filterMap LinePart.direction?

/-- The command that some parts make. -/
def commandOf (parts : List LinePart) (background : Bool) : Command :=
  { argv := parts.filterMap LinePart.argument?
    input := (parts.filterMap (LinePart.target? .input)).head?
    output := (parts.filterMap (LinePart.target? .output)).head?
    background := background }

/-- Whether the first part that redirects a stream for the second time redirects this one. -/
def FirstRepeated (parts : List LinePart) (direction : Direction) : Prop :=
  ∃ before target after, parts = before ++ .redirection direction target :: after ∧
    (directionsOf before).Nodup ∧ direction ∈ directionsOf before

/-- What parts and their end come to.  A repeated redirection counts before a missing target. -/
inductive Verdict (parts : List LinePart) (last : PartsEnd) : Except ParseError Command → Prop where
  | duplicate {direction : Direction} (repeated : FirstRepeated parts direction) :
      Verdict parts last (.error (.duplicate direction.mark))
  | missingTarget {direction : Direction} (single : (directionsOf parts).Nodup)
      (cut : last = .cut direction) : Verdict parts last (.error (.missingTarget direction.mark))
  | command (single : (directionsOf parts).Nodup) (whole : ∀ direction, last ≠ .cut direction) :
      Verdict parts last (.ok (commandOf parts (decide (last = .background))))

/-- What a line means.  A line without words means no command, and neither does one whose first word starts
with the comment mark; any other means what its parts come to. -/
inductive Command.Means (line : String) : Except ParseError (Option Command) → Prop where
  | blank (wordless : Text.Runs line.toList []) : Means line (.ok none)
  | comment {first : List Char} {others : List (List Char)}
      (runs : Text.Runs line.toList (first :: others)) (marked : first.head? = some '#') :
      Means line (.ok none)
  | command {first : List Char} {others : List (List Char)} {parts : List LinePart}
      {last : PartsEnd} {verdict : Except ParseError Command}
      (runs : Text.Runs line.toList (first :: others)) (unmarked : first.head? ≠ some '#')
      (forms : FormsParts ((first :: others).map String.ofList) parts last)
      (comes : Verdict parts last verdict) : Means line (verdict.map some)

/-! ### Roles and parts are determined -/

theorem Command.roleOf_eq_iff {word : String} {role : Role} :
    roleOf word = role ↔ Command.HasRole word role := by
  constructor
  · rintro rfl
    unfold roleOf
    split_ifs with input output background
    · exact .input input
    · exact .output input output
    · exact .background input output background
    · exact .argument input output background
  · intro has
    cases has <;> simp_all [roleOf, Direction.mark, backgroundMark]

/-- Every row of words forms parts. -/
theorem FormsParts.exists_of_words : ∀ words, ∃ parts last, FormsParts words parts last
  | [] => ⟨[], .exhausted, .exhausted⟩
  | word :: rest => by
      obtain ⟨role, has⟩ : ∃ role, Command.HasRole word role := ⟨_, Command.roleOf_eq_iff.1 rfl⟩
      cases role with
      | argument =>
          obtain ⟨parts, last, others⟩ := exists_of_words rest
          exact ⟨_, _, .argument has others⟩
      | background => exact ⟨[], _, .background has⟩
      | redirect direction =>
          cases rest with
          | nil => exact ⟨[], _, .cut has⟩
          | cons target rest =>
              obtain ⟨parts, last, others⟩ := exists_of_words rest
              exact ⟨_, _, .redirection has others⟩

/-! ### Repeated redirections -/

section

variable {parts : List LinePart} {direction other : Direction} {target word : String}

theorem directionsOf_redirection :
    directionsOf (parts ++ [.redirection direction target]) = directionsOf parts ++ [direction] := by
  simp [directionsOf, LinePart.direction?]

theorem directionsOf_argument : directionsOf (parts ++ [.argument word]) = directionsOf parts := by
  simp [directionsOf, LinePart.direction?]

/-- Where a stream is redirected again, some stream is redirected twice. -/
theorem FirstRepeated.not_nodup (repeated : FirstRepeated parts direction) :
    ¬ (directionsOf parts).Nodup := by
  obtain ⟨before, target, after, rfl, -, member⟩ := repeated
  intro nodup
  have apart := (List.nodup_append.1 (by simpa [directionsOf] using nodup)).2.2
  exact apart direction member direction (by simp [LinePart.direction?]) rfl

/-- No repetition lies behind another one. -/
theorem length_le_of_repeated {before before' after after' : List LinePart} {target' : String}
    (same : before ++ .redirection direction target :: after =
      before' ++ .redirection other target' :: after')
    (single : (directionsOf before).Nodup) (again : direction ∈ directionsOf before)
    (single' : (directionsOf before').Nodup) : before'.length ≤ before.length := by
  rcases List.append_eq_append_iff.1 same with ⟨between, rfl, rest⟩ | ⟨between, rfl, -⟩
  · cases between with
    | nil => simp
    | cons part between =>
        obtain ⟨rfl, -⟩ := List.cons.inj rest
        exact absurd single' (FirstRepeated.not_nodup ⟨before, target, between, rfl, single, again⟩)
  · simp

/-- Only one stream is the first to be redirected again. -/
theorem FirstRepeated.unique (one : FirstRepeated parts direction)
    (two : FirstRepeated parts other) : direction = other := by
  obtain ⟨before, target, after, rfl, single, again⟩ := one
  obtain ⟨before', target', after', same, single', again'⟩ := two
  have lengths : before.length = before'.length :=
    Nat.le_antisymm (length_le_of_repeated same.symm single' again' single)
      (length_le_of_repeated same single again single')
  obtain ⟨-, rest⟩ := List.append_inj same lengths
  exact (LinePart.redirection.inj (List.cons.inj rest).1).1

end

/-- A verdict is the only one. -/
theorem Verdict.unique {parts : List LinePart} {last : PartsEnd} {one two : Except ParseError Command}
    (first : Verdict parts last one) (second : Verdict parts last two) : one = two := by
  cases first with
  | duplicate repeated =>
      cases second with
      | duplicate repeated' => rw [repeated.unique repeated']
      | missingTarget single _ => exact absurd single repeated.not_nodup
      | command single _ => exact absurd single repeated.not_nodup
  | missingTarget single cut =>
      cases second with
      | duplicate repeated => exact absurd single repeated.not_nodup
      | missingTarget _ cut' =>
          obtain rfl := PartsEnd.cut.inj (cut.symm.trans cut')
          rfl
      | command _ whole => exact absurd cut (whole _)
  | command single whole =>
      cases second with
      | duplicate repeated => exact absurd single repeated.not_nodup
      | missingTarget _ cut => exact absurd cut (whole _)
      | command _ _ => rfl

/-! ### What has been read makes a command -/

section

variable {parts : List LinePart} {direction : Direction} {target word : String} {background : Bool}

/-- A stream has no target exactly if no part redirects it. -/
theorem targets_eq_nil_iff :
    parts.filterMap (LinePart.target? direction) = [] ↔ direction ∉ directionsOf parts := by
  induction parts with
  | nil => simp [directionsOf]
  | cons part rest ih =>
      cases part with
      | argument word => simpa [directionsOf, LinePart.target?, LinePart.direction?] using ih
      | redirection other target =>
          by_cases same : other = direction
          · simp [directionsOf, LinePart.target?, LinePart.direction?, same]
          · have different : direction ≠ other := fun equal => same equal.symm
            simpa [directionsOf, LinePart.target?, LinePart.direction?, same, different] using ih

theorem path_commandOf : (commandOf parts background).path direction =
    (parts.filterMap (LinePart.target? direction)).head? := by
  cases direction <;> rfl

/-- A command has a path for a stream exactly if some part redirects it. -/
theorem isSome_path_commandOf (background : Bool) :
    ((commandOf parts background).path direction).isSome = true ↔ direction ∈ directionsOf parts := by
  rw [path_commandOf, List.isSome_head?, ne_eq, targets_eq_nil_iff, not_not]

theorem commandOf_argument :
    commandOf (parts ++ [.argument word]) false =
      { commandOf parts false with argv := (commandOf parts false).argv ++ [word] } := by
  simp [commandOf, LinePart.argument?, LinePart.target?]

theorem commandOf_redirection (fresh : direction ∉ directionsOf parts) :
    commandOf (parts ++ [.redirection direction target]) false =
      (commandOf parts false).setPath target direction := by
  have none := targets_eq_nil_iff.2 fresh
  cases direction <;>
    simp [commandOf, Command.setPath, LinePart.argument?, LinePart.target?, none]

end

/-! ### Reading agrees with the grammar -/

/-- A new redirection repeats none of those before it. -/
theorem nodup_directionsOf_redirection {parts : List LinePart} {direction : Direction}
    {target : String} (single : (directionsOf parts).Nodup)
    (fresh : direction ∉ directionsOf parts) :
    (directionsOf (parts ++ [.redirection direction target])).Nodup := by
  rw [directionsOf_redirection]
  refine List.nodup_append.2 ⟨single, by simp, ?_⟩
  rintro other member _ last rfl
  exact fresh (List.mem_singleton.1 last ▸ member)

/-- Words are read, on top of the parts that have been read, as what the grammar says. -/
theorem FormsParts.verdict {words : List String} {parts : List LinePart} {last : PartsEnd}
    (forms : FormsParts words parts last) {soFar : List LinePart}
    (single : (directionsOf soFar).Nodup) :
    Verdict (soFar ++ parts) last (readWords (commandOf soFar false) words) := by
  induction forms generalizing soFar with
  | exhausted => simpa [readWords] using @Verdict.command _ .exhausted single (by simp)
  | cut role =>
      rw [readWords, Command.roleOf_eq_iff.2 role, List.append_nil]
      exact .missingTarget single rfl
  | background role =>
      rw [readWords, Command.roleOf_eq_iff.2 role, List.append_nil]
      exact .command single (by simp)
  | @argument word rest parts last role others ih =>
      have further := @ih (soFar ++ [.argument word]) (by rwa [directionsOf_argument])
      rw [commandOf_argument, List.append_assoc] at further
      rwa [readWords, Command.roleOf_eq_iff.2 role]
  | @redirection word target direction rest parts last role others ih =>
      rw [readWords, Command.roleOf_eq_iff.2 role]
      by_cases again : direction ∈ directionsOf soFar
      · simp only [(isSome_path_commandOf false).2 again, if_true]
        exact .duplicate ⟨soFar, target, parts, rfl, single, again⟩
      · have further := @ih (soFar ++ [.redirection direction target])
          (nodup_directionsOf_redirection single again)
        rw [commandOf_redirection again, List.append_assoc] at further
        simpa [isSome_path_commandOf, again] using further

namespace Command

/-- A row of words is read as what its parts come to. -/
theorem ofWords_eq_iff {words : List String} {parts : List LinePart} {last : PartsEnd}
    (forms : FormsParts words parts last) {verdict : Except ParseError Command} :
    ofWords words = verdict ↔ Verdict parts last verdict := by
  have read : Verdict parts last (ofWords words) := @FormsParts.verdict _ _ _ forms [] List.nodup_nil
  exact ⟨fun same => same ▸ read, fun comes => read.unique comes⟩

/-- A line of blanks is read as no command. -/
theorem parse_of_wordless {line : String} (wordless : Text.words line.toList = []) :
    parse line = .ok none := by
  have start := Text.head?_trimStart line.toList
  rw [wordless] at start
  simp [parse, List.head?_eq_none_iff.1 start]

/-- A line with words is a comment or is read word by word. -/
theorem parse_of_words {line : String} {first : List Char} {others : List (List Char)}
    (words : Text.words line.toList = first :: others) :
    parse line = if first.head? = some '#' then .ok none
      else (ofWords ((first :: others).map String.ofList)).map some := by
  obtain ⟨c, rest, rfl⟩ := List.exists_cons_of_ne_nil
    (Text.isWord_of_mem_words (words ▸ List.mem_cons_self : first ∈ Text.words line.toList)).1
  have start : (Text.trimStart line.toList).head? = some c := by
    rw [Text.head?_trimStart, words]
    rfl
  have some : (Text.trimStart line.toList).isEmpty = false := by
    cases trimmed : Text.trimStart line.toList with
    | nil => simp [trimmed] at start
    | cons _ _ => rfl
  simp [parse, some, isComment, commentMark, start, Text.words_trimStart, words]

/-- A line is read as exactly what it means. -/
theorem parse_eq_iff_means (line : String) (result : Except ParseError (Option Command)) :
    parse line = result ↔ Means line result := by
  constructor
  · rintro rfl
    cases words : Text.words line.toList with
    | nil =>
        rw [parse_of_wordless words]
        exact .blank (Text.words_eq_iff_runs.1 words)
    | cons first others =>
        have runs := Text.words_eq_iff_runs.1 words
        rw [parse_of_words words]
        split_ifs with marked
        · exact .comment runs marked
        · obtain ⟨parts, last, forms⟩ :=
            FormsParts.exists_of_words ((first :: others).map String.ofList)
          exact .command runs marked forms ((ofWords_eq_iff forms).1 rfl)
  · intro means
    cases means with
    | blank wordless => exact parse_of_wordless wordless.words_eq
    | comment runs marked => rw [parse_of_words runs.words_eq, if_pos marked]
    | command runs unmarked forms comes =>
        rw [parse_of_words runs.words_eq, if_neg unmarked, (ofWords_eq_iff forms).2 comes]

/-- Targets may be marks themselves, and nothing behind the background mark is looked at. -/
example : parse "cat < & > < a#b & > > <" =
    .ok (some { argv := ["cat", "a#b"], input := some "&", output := some "<", background := true }) := by
  decide

end Command

end JobShell
