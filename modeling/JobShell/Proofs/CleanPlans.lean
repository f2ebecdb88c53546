/-
Module: JobShell.Proofs.CleanPlans
Purpose: What a child is handed is well formed, whatever line was read.  Reading leaves no blank in a text and no
  mark of a line in a word, putting in the shell's number leaves no mark of the number and takes no text away, and
  planning lets no zero pass; each stage keeps what the ones before it have brought about.
Main exports: Text.IsClean, LaunchPlan.IsClean, Command.Printable.substitutePid, isClean_of_understands,
  Kernel.forkingBy, executeLine_hands_over
-/
import JobShell.Proofs.BuiltinLines
import JobShell.Proofs.LaunchPlans
import JobShell.Proofs.LineForms
import JobShell.Proofs.LineRendering
import JobShell.Proofs.MarkedLines

namespace JobShell

variable {σ : Type}

/-- A text as the system may be handed it: there is something of it, and it holds no zero, no blank and no mark of
the shell's number. -/
structure Text.IsClean (text : String) : Prop where
  something : text ≠ ""
  noZero : '\x00' ∉ text.toList
  noBlank : ∀ c ∈ text.toList, Text.isBlank c = false
  unmarked : ¬ ['$', '$'] <:+: text.toList

/-- A plan all of whose texts are clean.  There is a program, and no word holds a mark of a line; a path may. -/
structure LaunchPlan.IsClean (plan : LaunchPlan) : Prop where
  program : plan.argv ≠ []
  argument : ∀ word ∈ plan.argv,
    Text.IsClean word ∧ '<' ∉ word.toList ∧ '>' ∉ word.toList ∧ '&' ∉ word.toList
  target : ∀ redirection ∈ plan.redirections, Text.IsClean redirection.path

/-! ### Putting in the number -/

theorem inert_numeral (number : Int) : PidMark.Inert (numeral number) :=
  PidMark.inert_of_isNumeral (numeral_ne_nil number) fun _ member => isDigit_of_mem_numeral member

/-- What can be read can still be read when something inert is put in for its marks. -/
theorem Command.Printable.substitutePid {c : Command} (printable : c.Printable) {pid : String}
    (inert : PidMark.Inert pid.toList) : (c.substitutePid pid).Printable := by
  rw [substitutePid_eq]
  constructor
  · intro word member
    obtain ⟨word, inside, rfl⟩ := List.mem_map.1 member
    obtain ⟨isWord, noInput, noOutput, noBackground⟩ := printable.argument word inside
    rw [PidMark.substitute, String.toList_ofList]
    refine ⟨PidMark.isWord_substituteChars inert isWord, ?_, ?_, ?_⟩
    · rwa [PidMark.mem_substituteChars_iff (by decide) inert.noInput]
    · rwa [PidMark.mem_substituteChars_iff (by decide) inert.noOutput]
    · rwa [PidMark.mem_substituteChars_iff (by decide) inert.noBackground]
  · intro direction path given
    rw [← substitutePid_eq, path_substitutePid] at given
    obtain ⟨path, written, rfl⟩ := Option.map_eq_some_iff.1 given
    rw [PidMark.substitute, String.toList_ofList]
    exact PidMark.isWord_substituteChars inert (printable.target direction path written)
  · intro noInput noOutput word head
    rw [List.head?_map] at head
    obtain ⟨word, first, rfl⟩ := Option.map_eq_some_iff.1 head
    rw [PidMark.substitute, String.toList_ofList, Ne, PidMark.head?_substituteChars_iff inert]
    exact printable.noComment (Option.map_eq_none_iff.1 noInput) (Option.map_eq_none_iff.1 noOutput) word first
  · intro nothing
    apply printable.something
    obtain ⟨argv, input, output, background⟩ := c
    simpa using nothing

section

variable {sh : Shell σ} {line : String} {c : Command}

/-- A command that is carried out could be read from some line. -/
theorem Shell.Understands.printable (understood : sh.Understands line c) : c.Printable := by
  obtain ⟨written, parsed, rfl⟩ := understood
  apply (Command.printable_of_parse parsed).substitutePid
  exact inert_numeral sh.state.pid

/-- A command that is carried out holds no mark of the shell's number. -/
theorem Shell.Understands.unmarked (understood : sh.Understands line c) : c.Unmarked := by
  obtain ⟨written, -, rfl⟩ := understood
  apply Command.unmarked_substitutePid
  intro member
  rcases isDigit_of_mem_numeral member with digit | sign
  · cases digit
  · cases sign

end

/-! ### Planning -/

theorem Text.isClean_nullDevice : Text.IsClean "/dev/null" := by
  constructor
  · decide
  · decide
  · simp [Text.isBlank]
  · rw [← PidMark.isMarked_iff]
    decide

/-- A word without zeros and marks is clean. -/
theorem Text.IsWord.isClean {text : String} (isWord : Text.IsWord text.toList)
    (noZero : '\x00' ∉ text.toList) (unmarked : ¬ ['$', '$'] <:+: text.toList) : Text.IsClean text := by
  constructor
  · rintro rfl
    exact isWord.1 rfl
  · exact noZero
  · exact isWord.2
  · exact unmarked

/-- What a child opens is a path of the command at its place, or the null device. -/
theorem Redirects.origin {c : Command} {background : Bool} {redirections : List Redirection}
    (redirects : Redirects c.input c.output background redirections) {redirection : Redirection}
    (member : redirection ∈ redirections) :
    c.path redirection.direction = some redirection.path ∨ redirection = ⟨.input, "/dev/null"⟩ := by
  obtain ⟨words, source, target, marked⟩ := c
  cases redirects with
  | both source target =>
      rcases List.mem_pair.1 member with rfl | rfl
      · exact .inl rfl
      · exact .inl rfl
  | input source =>
      obtain rfl := List.mem_singleton.1 member
      exact .inl rfl
  | output target =>
      obtain rfl := List.mem_singleton.1 member
      exact .inl rfl
  | device => exact .inr (List.mem_singleton.1 member)
  | nothing => cases member

/-- A path of a command is one of its texts. -/
theorem Command.mem_texts_of_path {c : Command} {direction : Direction} {path : String}
    (given : c.path direction = some path) : path ∈ c.texts := by
  cases direction with
  | input => simp [texts, show c.input = some path from given]
  | output => simp [texts, show c.output = some path from given]

/-- The plan for a command that can be read and that holds no marks is clean. -/
theorem LaunchPlan.isClean_of_ofCommand {c : Command} (printable : c.Printable) (unmarked : c.Unmarked)
    {background : Bool} {plan : LaunchPlan} (planned : ofCommand c background = .ok plan) : plan.IsClean := by
  cases ofCommand_eq_iff_comes.1 planned with
  | plan words safe redirects =>
      constructor
      · exact words
      · intro word member
        obtain ⟨isWord, marks⟩ := printable.argument word member
        have text : word ∈ c.texts := by simp [Command.texts, member]
        exact ⟨isWord.isClean (safe word text) (unmarked.argument word member), marks⟩
      · intro redirection member
        rcases redirects.origin member with given | rfl
        · have isWord := printable.target _ _ given
          exact isWord.isClean (safe _ (Command.mem_texts_of_path given)) (unmarked.target _ _ given)
        · exact Text.isClean_nullDevice

/-- Whatever is planned for a line is clean. -/
theorem isClean_of_understands {sh : Shell σ} {line : String} {c : Command}
    (understood : sh.Understands line c) {background : Bool} {plan : LaunchPlan}
    (planned : LaunchPlan.ofCommand c background = .ok plan) : plan.IsClean :=
  LaunchPlan.isClean_of_ofCommand understood.printable understood.unmarked planned

/-! ### Making the child -/

/-- A kernel that makes children in another way. -/
def Kernel.forkingBy (k : Kernel σ) (fork : LaunchPlan → σ → Except Errno Pid × σ) : Kernel σ :=
  { k with fork := fork }

section

variable {k : Kernel σ} {fork : LaunchPlan → σ → Except Errno Pid × σ} {sh : Shell σ}

/-- Waiting does not ask how children are made. -/
theorem waitWithin_forkingBy (pid : Pid) (fuel : Nat) (s : σ) :
    waitWithin (k.forkingBy fork) pid fuel s = waitWithin k pid fuel s := by
  induction fuel generalizing s with
  | zero => rfl
  | succ fuel ih =>
      simp only [waitWithin_succ, ih]
      rfl

/-- A launch asks how a child is made by its own plan and by no other. -/
theorem launch_forkingBy {c : Command} {foregroundOnly : Bool}
    (same : ∀ plan, LaunchPlan.ofCommand c (runsInBackground c foregroundOnly) = .ok plan →
      fork plan = k.fork plan) (s : σ) :
    launch (k.forkingBy fork) c foregroundOnly s = launch k c foregroundOnly s := by
  cases planned : LaunchPlan.ofCommand c (runsInBackground c foregroundOnly) with
  | error e => rw [launch_of_unplanned planned, launch_of_unplanned planned]
  | ok plan =>
      have way : (k.forkingBy fork).fork plan s = k.fork plan s := congrFun (same plan planned) s
      rcases granted : k.fork plan s with ⟨reason | pid, t⟩
      · rw [launch_of_refused planned granted, launch_of_refused planned (way.trans granted)]
      · rw [launch_of_granted planned granted, launch_of_granted planned (way.trans granted)]
        cases runsInBackground c foregroundOnly with
        | true => rfl
        | false =>
            have waits : waitFor (k.forkingBy fork) pid t = waitFor k pid t :=
              waitWithin_forkingBy pid _ t
            simp only [attend, Bool.false_eq_true, if_false, waits]

theorem launchCommand_forkingBy {c : Command}
    (same : ∀ background plan, LaunchPlan.ofCommand c background = .ok plan → fork plan = k.fork plan) :
    sh.launchCommand (k.forkingBy fork) c = sh.launchCommand k c := by
  rcases counted : k.toggles sh.system with ⟨seen, s⟩
  have counted' : (k.forkingBy fork).toggles sh.system = (seen, s) := counted
  rw [launchCommand_eq counted, launchCommand_eq counted', launch_forkingBy (same _)]
  rfl

theorem dispatch_forkingBy {c : Command}
    (same : ∀ background plan, LaunchPlan.ofCommand c background = .ok plan → fork plan = k.fork plan) :
    sh.dispatch (k.forkingBy fork) c = sh.dispatch k c := by
  cases chosen : c.program.bind Builtin.ofName with
  | none => simp only [Shell.dispatch, chosen, launchCommand_forkingBy same]
  | some builtin =>
      have shares : (k.forkingBy fork).SharesBuiltins k := ⟨rfl, rfl, rfl, rfl, rfl⟩
      rw [dispatch_of_builtin chosen, dispatch_of_builtin chosen, runBuiltin_congr shares]

/-- What becomes of a child that has been made is never that there is nothing to run. -/
theorem attend_ne_nothingToRun {pid : Pid} {background : Bool} {s t : σ} :
    attend k pid background s ≠ some (.error .nothingToRun, t) := by
  intro attended
  cases background with
  | true =>
      obtain ⟨result, asked, failed⟩ := attend_background attended
      rw [pollFor_eq] at asked
      cases result with
      | ok finished => cases failed
      | error e =>
          obtain rfl : e = .nothingToRun := Except.error.inj failed
          obtain ⟨reason, other⟩ := WaitAnswer.wait_of_reading (Prod.mk.inj asked).1
          cases other
  | false =>
      obtain ⟨result, waited, failed⟩ := attend_foreground attended
      cases result with
      | ok status => cases failed
      | error e =>
          obtain rfl : e = .nothingToRun := Except.error.inj failed
          obtain ⟨reason, other⟩ := wait_of_waitWithin waited
          cases other

/-- Where there is a word, no launch fails because there is nothing to run. -/
theorem launch_ne_nothingToRun {c : Command} (words : c.argv ≠ []) {foregroundOnly : Bool} {s t : σ} :
    launch k c foregroundOnly s ≠ some (.error .nothingToRun, t) := by
  cases planned : LaunchPlan.ofCommand c (runsInBackground c foregroundOnly) with
  | error e =>
      rw [launch_of_unplanned planned]
      cases ofCommand_eq_iff_comes.1 planned with
      | wordless empty => exact absurd empty words
      | zero words first => simp
  | ok plan =>
      rcases granted : k.fork plan s with ⟨reason | pid, u⟩
      · rw [launch_of_refused planned granted]
        simp
      · rw [launch_of_granted planned granted]
        exact attend_ne_nothingToRun

theorem dispatch_ne_nothingToRun {c : Command} (words : c.argv ≠ []) (sh' : Shell σ) :
    sh.dispatch k c ≠ some (.error (.process .nothingToRun), sh') := by
  intro dispatched
  cases chosen : c.program.bind Builtin.ofName with
  | none =>
      simp only [Shell.dispatch, chosen] at dispatched
      obtain ⟨seen, s, outcome, t, -, launched, settled⟩ := launchCommand_eq_some dispatched
      rcases outcome with e | ⟨_ | _⟩
      · obtain ⟨same, -⟩ := Prod.mk.inj settled
        obtain rfl : e = .nothingToRun := Failure.process.inj (Except.error.inj same)
        exact launch_ne_nothingToRun words launched
      · cases (Prod.mk.inj settled).1
      · cases (Prod.mk.inj settled).1
  | some builtin =>
      rw [dispatch_of_builtin chosen] at dispatched
      obtain ⟨failed, -⟩ := Prod.mk.inj (Option.some.inj dispatched)
      cases result : (sh.runBuiltin k builtin c.arguments).1 with
      | ok flow => simp [result, Except.mapError] at failed
      | error e => simp [result, Except.mapError] at failed

end

/-- What comes of a line is well formed, in every state and on every system.  Either nothing is done, or a command
with a first word is handed over; that there is nothing to run is never the outcome; and of how children are made
nothing counts but what is said of clean plans, so that no other plan is ever handed over.  Where calls show in a
history, every child that was made had a clean plan. -/
theorem executeLine_hands_over (k : Kernel σ) (sh : Shell σ) (line : String) :
    ((∃ result, sh.executeLine k line = some (result, sh)) ∨
      ∃ c name others, sh.Understands line c ∧ c.argv = name :: others ∧
        sh.executeLine k line = sh.dispatch k c) ∧
    (∀ sh', sh.executeLine k line ≠ some (.error (.process .nothingToRun), sh')) ∧
    (∀ fork, (∀ plan : LaunchPlan, plan.IsClean → fork plan = k.fork plan) →
      sh.executeLine (k.forkingBy fork) line = sh.executeLine k line) ∧
    ∀ history, k.Faithful history → ∀ result sh' events,
      sh.executeLine k line = some (result, sh') → history sh'.system = history sh.system ++ events →
      ∀ plan pid, .forked plan pid ∈ events → plan.IsClean := by
  refine ⟨?_, ?_, ?_, ?_⟩
  · rcases executeLine_cases k sh line with (idle | ⟨cause, idle⟩) | ⟨c, name, understood, named, handed⟩
    · exact .inl ⟨_, idle⟩
    · exact .inl ⟨_, idle⟩
    · obtain ⟨others, argv⟩ := List.head?_eq_some_iff.1 named
      exact .inr ⟨c, name, others, understood, argv, handed⟩
  · intro sh' executed
    rcases executeLine_cases k sh line with (idle | ⟨cause, idle⟩) | ⟨c, name, -, named, handed⟩
    · rw [idle] at executed
      cases executed
    · rw [idle] at executed
      cases executed
    · obtain ⟨others, argv⟩ := List.head?_eq_some_iff.1 named
      rw [handed] at executed
      exact dispatch_ne_nothingToRun (by simp [argv]) sh' executed
  · intro fork same
    simp only [Shell.executeLine]
    split
    · rfl
    · rfl
    · next c parsed =>
      split
      · rfl
      · apply dispatch_forkingBy
        intro background plan planned
        have understood : sh.Understands line (c.substitutePid (toString sh.state.pid)) :=
          ⟨c, parsed, rfl⟩
        exact same plan (isClean_of_understands understood planned)
  · intro history faithful result sh' events executed happened plan pid made
    obtain ⟨s, t, ⟨c, seen, ⟨parsed, -⟩, -, planned⟩, -⟩ :=
      (forked_mem_iff faithful executed happened).1 made
    have understood : sh.Understands line (c.substitutePid (toString sh.state.pid)) := ⟨c, parsed, rfl⟩
    exact isClean_of_understands understood planned

/-- Three dollar signs as a program, and a path that holds a mark of a line and the mark of the number: the child has
the number and one sign as its program, and the path with the number. -/
theorem executeLine_hands_over_rehearsed :
    let plan : LaunchPlan :=
      { argv := ["99$"], foreground := false, redirections := [⟨.input, ">99"⟩] }
    ∃ result sh', (Rehearsal.shell {}).executeLine Rehearsal.kernel "$$$ < >$$ & rest" = some (result, sh') ∧
      .forked plan 100 ∈ sh'.system.happened ∧ plan.IsClean := by
  intro plan
  obtain ⟨-, -, -, clean⟩ :=
    executeLine_hands_over Rehearsal.kernel (Rehearsal.shell {}) "$$$ < >$$ & rest"
  obtain ⟨result, sh', executed, made⟩ :
      ∃ result sh', (Rehearsal.shell {}).executeLine Rehearsal.kernel "$$$ < >$$ & rest" = some (result, sh') ∧
        .forked plan 100 ∈ sh'.system.happened :=
    ⟨_, _, rfl, by decide +kernel⟩
  exact ⟨result, sh', executed, made,
    clean Rehearsal.happened Rehearsal.faithful result sh' _ executed rfl plan 100 made⟩

end JobShell
