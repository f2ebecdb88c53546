/-
Module: JobShell.Proofs.LaunchPlans
Purpose: What a command comes to as the plan for a child, for every command there can be, also for those that
  no line holds.  A plan is refused for want of a program, or else for the first text that cannot be handed to
  the system; a plan that is made holds the words as they are, and opens what the command asks for, or the null
  device where a command in the background asks for nothing.
Main exports: Redirects, Comes, ofCommand_eq_iff_comes, planned_exactly
-/
import JobShell.Proofs.BarrenLines

namespace JobShell

/-- What a child opens, by the two paths that are asked for and whether it is to run in the background: the
input path, then the output path; the null device for input if there are none and it runs in the background. -/
inductive Redirects : Option String → Option String → Bool → List Redirection → Prop where
  | both (source target : String) (background : Bool) :
      Redirects (some source) (some target) background [⟨.input, source⟩, ⟨.output, target⟩]
  | input (source : String) (background : Bool) :
      Redirects (some source) none background [⟨.input, source⟩]
  | output (target : String) (background : Bool) :
      Redirects none (some target) background [⟨.output, target⟩]
  | device : Redirects none none true [⟨.input, "/dev/null"⟩]
  | nothing : Redirects none none false []

/-- What a command comes to as a plan.  Want of a program is found before any text that cannot be handed to the
system, and of those texts the first one counts: first the words, then the input path, then the output path. -/
inductive Comes (c : Command) (background : Bool) : Except ProcessFailure LaunchPlan → Prop where
  | wordless (empty : c.argv = []) : Comes c background (.error .nothingToRun)
  | zero {text : String} (words : c.argv ≠ []) (first : FirstUnsafe c.texts text) :
      Comes c background (.error (.nulInArgument text))
  | plan {redirections : List Redirection} (words : c.argv ≠ [])
      (safe : ∀ text ∈ c.texts, '\x00' ∉ text.toList)
      (redirects : Redirects c.input c.output background redirections) :
      Comes c background (.ok ⟨c.argv, !background, redirections⟩)

/-! ### Redirections -/

theorem redirectionsOf_eq_iff {c : Command} {background : Bool} {redirections : List Redirection} :
    LaunchPlan.redirectionsOf c background = redirections ↔
      Redirects c.input c.output background redirections := by
  obtain ⟨words, source, target, marked⟩ := c
  constructor
  · rintro rfl
    cases source with
    | some source =>
        cases target with
        | some target => exact .both source target background
        | none => exact .input source background
    | none =>
        cases target with
        | some target => exact .output target background
        | none =>
            cases background with
            | true => exact .device
            | false => exact .nothing
  · intro redirects
    cases redirects <;> rfl

/-- What a command asks to be opened: the input path, then the output path. -/
def Command.requests (c : Command) : List Redirection :=
  c.input.toList.map (⟨.input, ·⟩) ++ c.output.toList.map (⟨.output, ·⟩)

/-- A child opens what was asked for, and besides that the null device exactly if nothing was asked for and it is
for the background, and nothing exactly otherwise. -/
theorem Redirects.requests {c : Command} {background : Bool} {redirections : List Redirection}
    (redirects : Redirects c.input c.output background redirections) :
    ∃ besides, redirections = c.requests ++ besides ∧
      (besides = [⟨.input, "/dev/null"⟩] ↔ c.input = none ∧ c.output = none ∧ background = true) ∧
      (besides = [] ↔ ¬(c.input = none ∧ c.output = none ∧ background = true)) := by
  obtain ⟨words, source, target, marked⟩ := c
  cases redirects with
  | both | input | output => exact ⟨[], by simp [Command.requests], by simp, by simp⟩
  | device => exact ⟨[⟨.input, "/dev/null"⟩], by simp [Command.requests], by simp, by simp⟩
  | nothing => exact ⟨[], by simp [Command.requests], by simp, by simp⟩

/-! ### Texts -/

/-- The first text that is found is the first one that cannot be handed to the system. -/
theorem firstUnsafe_eq_some_iff {texts : List String} {text : String} :
    LaunchPlan.firstUnsafe texts = some text ↔ FirstUnsafe texts text := by
  constructor
  · intro found
    obtain ⟨unsafe', before, after, rfl, earlier⟩ := List.find?_eq_some_iff_append.1 found
    refine ⟨before, after, rfl, fun other member => ?_, ?_⟩
    · simpa [LaunchPlan.isSafe] using earlier other member
    · simpa [LaunchPlan.isSafe] using unsafe'
  · exact firstUnsafe_eq

theorem firstUnsafe_eq_none_iff {texts : List String} :
    LaunchPlan.firstUnsafe texts = none ↔ ∀ text ∈ texts, '\x00' ∉ text.toList := by
  simp [LaunchPlan.firstUnsafe, LaunchPlan.isSafe]

/-! ### Plans -/

/-- Whatever is asked, a command comes to what is said of it and to nothing else. -/
theorem ofCommand_eq_iff_comes {c : Command} {background : Bool}
    {result : Except ProcessFailure LaunchPlan} :
    LaunchPlan.ofCommand c background = result ↔ Comes c background result := by
  constructor
  · rintro rfl
    rw [LaunchPlan.ofCommand]
    by_cases empty : c.argv = []
    · rw [if_pos (by simp [Command.isEmpty, empty])]
      exact .wordless empty
    · rw [if_neg (by simp [Command.isEmpty, empty])]
      cases found : LaunchPlan.firstUnsafe (c.argv ++ c.input.toList ++ c.output.toList) with
      | some text => exact .zero empty (firstUnsafe_eq_some_iff.1 found)
      | none => exact .plan empty (firstUnsafe_eq_none_iff.1 found) (redirectionsOf_eq_iff.1 rfl)
  · intro comes
    cases comes with
    | wordless empty => rw [LaunchPlan.ofCommand, if_pos (by simp [Command.isEmpty, empty])]
    | zero words first =>
        obtain ⟨name, others, argv⟩ := List.exists_cons_of_ne_nil words
        exact ofCommand_of_firstUnsafe (by rw [Command.program, argv, List.head?_cons]) first background
    | plan words safe redirects =>
        have found := firstUnsafe_eq_none_iff.2 safe
        rw [Command.texts] at found
        rw [LaunchPlan.ofCommand, if_neg (by simp [Command.isEmpty, words]), found,
          redirectionsOf_eq_iff.2 redirects]

/-- The words stand in the vector at their places, and the entry that closes it stands behind them and nowhere
else. -/
theorem vector_exactly (plan : LaunchPlan) :
    (∀ (place : Nat) (word : String), plan.vector[place]? = some (some word) ↔ plan.argv[place]? = some word) ∧
      ∀ place : Nat, plan.vector[place]? = some none ↔ place = plan.argv.length := by
  refine ⟨fun place word => ?_, fun place => ?_⟩
  · rw [LaunchPlan.vector, List.getElem?_append, List.length_map]
    split
    · simp
    · next behind => simp [List.getElem?_singleton, Nat.le_of_not_lt behind]
  · rw [LaunchPlan.vector, List.getElem?_append, List.length_map]
    split
    · next inside => simp [Nat.ne_of_lt inside]
    · next behind =>
      rw [List.getElem?_singleton]
      split <;> simp <;> omega

/-- Every command comes to exactly one of these: a refusal for want of a program, a refusal for its first text
that cannot be handed to the system, or a plan, which is made exactly if it has a program and no such text.  The
plan holds the words at their places and is closed behind them, is for the foreground unless it was asked for the
background, and opens what is asked for and nothing else; only where nothing is asked for and it is for the
background it opens the null device. -/
theorem planned_exactly (c : Command) (background : Bool) :
    (∀ result, LaunchPlan.ofCommand c background = result ↔ Comes c background result) ∧
    ((∃ plan, LaunchPlan.ofCommand c background = .ok plan) ↔
      c.argv ≠ [] ∧ ∀ text ∈ c.texts, '\x00' ∉ text.toList) ∧
    ∀ plan, LaunchPlan.ofCommand c background = .ok plan →
      (∀ (place : Nat) (word : String), plan.vector[place]? = some (some word) ↔ c.argv[place]? = some word) ∧
      (∀ place : Nat, plan.vector[place]? = some none ↔ place = c.argv.length) ∧
      plan.foreground = !background ∧
      Redirects c.input c.output background plan.redirections ∧
      ∃ besides, plan.redirections = c.requests ++ besides ∧
        (besides = [⟨.input, "/dev/null"⟩] ↔ c.input = none ∧ c.output = none ∧ background = true) ∧
        (besides = [] ↔ ¬(c.input = none ∧ c.output = none ∧ background = true)) := by
  refine ⟨fun result => ofCommand_eq_iff_comes, ⟨?_, ?_⟩, ?_⟩
  · rintro ⟨plan, planned⟩
    cases ofCommand_eq_iff_comes.1 planned with
    | plan words safe redirects => exact ⟨words, safe⟩
  · rintro ⟨words, safe⟩
    exact ⟨_, ofCommand_eq_iff_comes.2 (.plan words safe (redirectionsOf_eq_iff.1 rfl))⟩
  · intro plan planned
    cases ofCommand_eq_iff_comes.1 planned with
    | plan words safe redirects =>
        obtain ⟨words, closed⟩ := vector_exactly ⟨c.argv, !background, _⟩
        exact ⟨words, closed, rfl, redirects, redirects.requests⟩

end JobShell
