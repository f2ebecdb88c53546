/-
Module: JobShell.Proofs.BarrenLines
Purpose: Lines on which nothing is done, because they hold nothing to run or are refused: by the reader, by
  `cd`, or because a text of a program's plan cannot be handed to the system.  Whatever else such a line asks
  for, it has been found out before anything is done, so all that may have happened is that the system was asked
  for the count of toggles, or for a directory that it refused.
Main exports: IsHome, AsksForHome, LeadsTo, Refuses, FirstUnsafe, Shell.Understands, Barren, OnlyAsked,
  barren_changes_nothing
-/
import JobShell.Machine.Boot
import JobShell.Proofs.LineGrammar
import JobShell.Proofs.Rehearsal

namespace JobShell

open Text (Bytes)

variable {σ : Type}

/-! ### Where `cd` leads -/

/-- A home directory: the one that the environment names, unless it names none or an empty one; the one of the
account then. -/
inductive IsHome (k : Kernel σ) (s : σ) : Bytes → Prop where
  | environment {home : Bytes} (named : k.homeVariable s = some home) (something : home ≠ []) :
      IsHome k s home
  | account {home : Bytes} (unnamed : k.homeVariable s = none ∨ k.homeVariable s = some [])
      (known : k.accountHome s = some home) : IsHome k s home

/-- Arguments of `cd` ask for home if there are none, or if the first one holds the home mark anywhere. -/
def AsksForHome (arguments : List String) : Prop :=
  ∀ first, arguments.head? = some first → '~' ∈ first.toList

/-- Where arguments of `cd` lead.  Those behind the first one do not count. -/
inductive LeadsTo (k : Kernel σ) (s : σ) (arguments : List String) : Bytes → Prop where
  | argument {first : String} (head : arguments.head? = some first) (plain : '~' ∉ first.toList) :
      LeadsTo k s arguments (Text.Utf8.encode first)
  | home {target : Bytes} (asks : AsksForHome arguments) (home : IsHome k s target) :
      LeadsTo k s arguments target

/-- Why a directory is not entered: its name cannot be handed to the system, or the system refuses it. -/
inductive Refuses (k : Kernel σ) (s : σ) (target : Bytes) : IoCause → Prop where
  | zero (inside : 0 ∈ target) :
      Refuses k s target (.custom "file name contained an unexpected NUL byte")
  | system {reason : Errno} (safe : 0 ∉ target)
      (refused : (k.changeDirectory target s).1 = .error reason) : Refuses k s target (.system reason)

/-- The first of some texts that cannot be handed to the system. -/
def FirstUnsafe (texts : List String) (text : String) : Prop :=
  ∃ before after, texts = before ++ text :: after ∧ (∀ other ∈ before, '\x00' ∉ other.toList) ∧
    '\x00' ∈ text.toList

/-! ### Lines on which nothing is done -/

/-- The command of a line as it is carried out, with the shell's number in the place of every mark. -/
def Shell.Understands (sh : Shell σ) (line : String) (c : Command) : Prop :=
  ∃ written, Command.parse line = .ok (some written) ∧ c = written.substitutePid (toString sh.state.pid)

/-- The texts of a command that are handed to the system. -/
def Command.texts (c : Command) : List String :=
  c.argv ++ c.input.toList ++ c.output.toList

/-- The lines on which nothing is done, with what comes of them. -/
inductive Barren (k : Kernel σ) (sh : Shell σ) (line : String) : Except Failure Flow → Prop where
  | blank (blank : ∀ c ∈ line.toList, Text.isBlank c = true) : Barren k sh line (.ok .proceed)
  | comment {gap rest : List Char} (written : line.toList = gap ++ '#' :: rest)
      (blank : ∀ c ∈ gap, Text.isBlank c = true) : Barren k sh line (.ok .proceed)
  | empty {c : Command} (parsed : Command.parse line = .ok (some c)) (wordless : c.argv = []) :
      Barren k sh line (.ok .proceed)
  | malformed {cause : ParseError} (parsed : Command.parse line = .error cause) :
      Barren k sh line (.error (.syntactic cause))
  | homeless {c : Command} (understood : sh.Understands line c) (named : c.program = some "cd")
      (asks : AsksForHome c.arguments) (nowhere : ∀ home, ¬ IsHome k sh.system home) :
      Barren k sh line (.error (.directory .homeNotFound))
  | refused {c : Command} {target : Bytes} {cause : IoCause} (understood : sh.Understands line c)
      (named : c.program = some "cd") (leads : LeadsTo k sh.system c.arguments target)
      (refuses : Refuses k sh.system target cause) :
      Barren k sh line (.error (.directory (.refused target cause)))
  | zero {c : Command} {name text : String} (understood : sh.Understands line c)
      (named : c.program = some name) (external : name ∉ ["cd", "status", "exit"])
      (first : FirstUnsafe c.texts text) :
      Barren k sh line (.error (.process (.nulInArgument text)))

/-- What a shell may have asked of the system on such a line: nothing, the count of toggles, or a directory
that the system refused. -/
inductive OnlyAsked (k : Kernel σ) (s : σ) : σ → Prop where
  | nothing : OnlyAsked k s s
  | toggles : OnlyAsked k s (k.toggles s).2
  | directory {target : Bytes} {reason : Errno}
      (refused : (k.changeDirectory target s).1 = .error reason) :
      OnlyAsked k s (k.changeDirectory target s).2

/-! ### Finding the reason -/

section

variable {k : Kernel σ} {s : σ}

theorem home_eq_some_iff {home : Bytes} : Shell.home k s = some home ↔ IsHome k s home := by
  constructor
  · intro found
    rw [Shell.home] at found
    split at found
    · next given named =>
      by_cases empty : given.isEmpty = true
      · rw [if_pos empty] at found
        rw [List.isEmpty_iff] at empty
        exact .account (.inr (empty ▸ named)) found
      · rw [if_neg empty] at found
        obtain rfl := Option.some.inj found
        exact .environment named (by simpa using empty)
    · next unnamed => exact .account (.inl unnamed) found
  · intro isHome
    cases isHome with
    | environment named something => simp [Shell.home, named, something]
    | account unnamed known =>
        rcases unnamed with unnamed | empty
        · simp [Shell.home, unnamed, known]
        · simp [Shell.home, empty, known]

theorem directoryTarget_of_leadsTo {arguments : List String} {target : Bytes}
    (leads : LeadsTo k s arguments target) :
    Shell.directoryTarget arguments (Shell.home k s) = .ok target := by
  cases leads with
  | argument head plain =>
      obtain ⟨others, rfl⟩ := List.head?_eq_some_iff.1 head
      simp [Shell.directoryTarget, homeMark, plain]
  | home asks home =>
      rw [home_eq_some_iff.2 home]
      cases arguments with
      | nil => rfl
      | cons first others => simp [Shell.directoryTarget, homeMark, asks first rfl]

theorem directoryTarget_of_homeless {arguments : List String} (asks : AsksForHome arguments)
    (nowhere : ∀ home, ¬ IsHome k s home) :
    Shell.directoryTarget arguments (Shell.home k s) = .error .homeNotFound := by
  have unknown : Shell.home k s = none := by
    apply Option.eq_none_iff_forall_ne_some.2
    intro home found
    exact nowhere home (home_eq_some_iff.1 found)
  rw [unknown]
  cases arguments with
  | nil => rfl
  | cons first others => simp [Shell.directoryTarget, homeMark, asks first rfl]

/-- A directory that is refused has at most been asked for. -/
theorem enter_of_refuses {target : Bytes} {cause : IoCause} (refuses : Refuses k s target cause) :
    ∃ s', Shell.enter k target s = (.error cause, s') ∧ OnlyAsked k s s' := by
  cases refuses with
  | zero inside =>
      refine ⟨s, ?_, .nothing⟩
      simp [Shell.enter, inside]
  | @system reason safe refused =>
      refine ⟨(k.changeDirectory target s).2, ?_, .directory refused⟩
      rcases asked : k.changeDirectory target s with ⟨answer, s'⟩
      rw [asked] at refused
      obtain rfl : answer = .error reason := refused
      simp [Shell.enter, safe, asked]

theorem firstUnsafe_eq {texts : List String} {text : String} (first : FirstUnsafe texts text) :
    LaunchPlan.firstUnsafe texts = some text := by
  obtain ⟨before, after, rfl, safe, inside⟩ := first
  rw [LaunchPlan.firstUnsafe, List.find?_append, List.find?_eq_none.2]
  · simp [LaunchPlan.isSafe, inside]
  · intro other member
    simpa [LaunchPlan.isSafe] using safe other member

/-- Where one of some texts holds a zero, there is a first one that does. -/
theorem exists_firstUnsafe {texts : List String} (zero : ∃ text ∈ texts, '\x00' ∈ text.toList) :
    ∃ text, FirstUnsafe texts text := by
  induction texts with
  | nil => simp at zero
  | cons other texts ih =>
      by_cases here : '\x00' ∈ other.toList
      · exact ⟨other, [], texts, rfl, by simp, here⟩
      · obtain ⟨text, before, after, rfl, safe, inside⟩ := ih (by simpa [here] using zero)
        exact ⟨text, other :: before, after, rfl, by simpa [here] using safe, inside⟩

/-- A plan that would hold an unsafe text is not made, in the foreground or in the background. -/
theorem ofCommand_of_firstUnsafe {c : Command} {name text : String} (named : c.program = some name)
    (first : FirstUnsafe c.texts text) (background : Bool) :
    LaunchPlan.ofCommand c background = .error (.nulInArgument text) := by
  obtain ⟨others, argv⟩ := List.head?_eq_some_iff.1 named
  have wordful : c.isEmpty = false := by simp [Command.isEmpty, argv]
  have found := firstUnsafe_eq first
  rw [Command.texts] at found
  rw [LaunchPlan.ofCommand, wordful, found]
  rfl

end

/-! ### Nothing is done -/

section

variable {k : Kernel σ} {sh : Shell σ} {line : String}

/-- A line that holds a command with a first word hands it over as it is understood. -/
theorem executeLine_of_understands {c : Command} {name : String} (understood : sh.Understands line c)
    (named : c.program = some name) : sh.executeLine k line = sh.dispatch k c := by
  obtain ⟨written, parsed, rfl⟩ := understood
  have wordful : written.isEmpty = false := by
    rw [Command.program_substitutePid] at named
    obtain ⟨first, head, -⟩ := Option.map_eq_some_iff.1 named
    obtain ⟨others, argv⟩ := List.head?_eq_some_iff.1 head
    simp [Command.isEmpty, argv]
  simp [Shell.executeLine, parsed, wordful]

theorem parse_of_comment {gap rest : List Char} (written : line.toList = gap ++ '#' :: rest)
    (blank : ∀ c ∈ gap, Text.isBlank c = true) : Command.parse line = .ok none := by
  have trimmed : Text.trimStart line.toList = '#' :: rest := by
    rw [written, Text.trimStart, List.dropWhile_append_of_pos blank]
    rfl
  simp [Command.parse, trimmed, Command.isComment, commentMark]

/-- A barren line comes to what is said of it, and the shell is as before, but for what it may have asked of
the system. -/
theorem Barren.executeLine {result : Except Failure Flow} (barren : Barren k sh line result) :
    ∃ s, sh.executeLine k line = some (result, { sh with system := s }) ∧ OnlyAsked k sh.system s := by
  cases barren with
  | blank blank =>
      have parsed := Command.parse_of_wordless (Text.words_eq_nil_of_isBlank blank)
      exact ⟨sh.system, by simp [Shell.executeLine, parsed], .nothing⟩
  | comment written blank =>
      have parsed := parse_of_comment written blank
      exact ⟨sh.system, by simp [Shell.executeLine, parsed], .nothing⟩
  | empty parsed wordless =>
      exact ⟨sh.system, by simp [Shell.executeLine, parsed, Command.isEmpty, wordless], .nothing⟩
  | malformed parsed => exact ⟨sh.system, by simp [Shell.executeLine, parsed], .nothing⟩
  | homeless understood named asks nowhere =>
      refine ⟨sh.system, ?_, .nothing⟩
      rw [executeLine_of_understands understood named, Shell.dispatch, named]
      simp [Builtin.ofName, Shell.runBuiltin, Shell.changeDirectory,
        directoryTarget_of_homeless asks nowhere]
  | refused understood named leads refuses =>
      obtain ⟨s, entered, asked⟩ := enter_of_refuses refuses
      refine ⟨s, ?_, asked⟩
      rw [executeLine_of_understands understood named, Shell.dispatch, named]
      simp [Builtin.ofName, Shell.runBuiltin, Shell.changeDirectory, directoryTarget_of_leadsTo leads,
        entered]
  | @zero c name text understood named external first =>
      refine ⟨(k.toggles sh.system).2, ?_, .toggles⟩
      have notBuiltin : Builtin.ofName name = none := by
        unfold Builtin.ofName
        split <;> simp_all
      rw [executeLine_of_understands understood named, Shell.dispatch, named]
      simp [notBuiltin, Shell.launchCommand, launch, ofCommand_of_firstUnsafe named first]

/-- Who only asks does nothing: no call shows in the history but that the count was read. -/
theorem OnlyAsked.passage {history : σ → History} (faithful : k.Faithful history) {s s' : σ}
    (asked : OnlyAsked k s s') :
    ∃ calls, Passage (history s) calls (history s') ∧ ∀ call ∈ calls, ∃ seen, call = .counted seen := by
  cases asked with
  | nothing => exact ⟨[], .refl _, by simp⟩
  | toggles => exact ⟨_, faithful.toggles s, by simp⟩
  | @directory target reason refused =>
      rcases asked : k.changeDirectory target s with ⟨answer, s'⟩
      rw [asked] at refused
      obtain rfl : answer = .error reason := refused
      exact ⟨[], faithful.changeDirectory_error asked, by simp⟩

/-- A machine that refuses a directory to the shell is as it was. -/
theorem Machine.kernel_changeDirectory_refused {m m' : Machine} {target : Bytes} {reason : Errno}
    (refused : Machine.kernel.changeDirectory target m = (.error reason, m')) : m' = m := by
  change Machine.answered (.ok ()) (Machine.changeDirectory target) m = _ at refused
  rw [Machine.answered, Machine.changeDirectory] at refused
  split at refused
  · cases refused
  · split at refused
    · exact (Prod.mk.inj refused).2.symm
    · split_ifs at refused
      · exact (Prod.mk.inj refused).2.symm
      · exact (Prod.mk.inj refused).2.symm
      · cases (Prod.mk.inj refused).1

/-- On the machine, who only asks changes nothing at all. -/
theorem OnlyAsked.machine_eq {m m' : Machine} (asked : OnlyAsked Machine.kernel m m') : m' = m := by
  cases asked with
  | nothing => rfl
  | toggles => rfl
  | directory refused => exact Machine.kernel_changeDirectory_refused (Prod.ext refused rfl)

/-- What holds of a barren line: it comes to what is said of it, and the shell remembers everything as before
and has done nothing but read the count of toggles.  Since nothing else happens on a machine in between, the
machine is the same as before, with its files, its processes and all that was written. -/
theorem barren_changes_nothing {history : σ → History} (faithful : k.Faithful history) :
    (∀ (sh : Shell σ) line c name, sh.Understands line c → c.program = some name →
      name ∉ ["cd", "status", "exit"] → (∃ text ∈ c.texts, '\x00' ∈ text.toList) →
      ∃ text, FirstUnsafe c.texts text ∧ Barren k sh line (.error (.process (.nulInArgument text)))) ∧
    (∀ (sh : Shell σ) line result, Barren k sh line result →
      ∃ s calls, sh.executeLine k line = some (result, { sh with system := s }) ∧
        Passage (history sh.system) calls (history s) ∧ ∀ call ∈ calls, ∃ seen, call = .counted seen) ∧
    ∀ (sh : Shell Machine) line result, Barren Machine.kernel sh line result →
      sh.executeLine Machine.kernel line = some (result, sh) := by
  refine ⟨?_, ?_, ?_⟩
  · intro sh line c name understood named external zero
    obtain ⟨text, first⟩ := exists_firstUnsafe zero
    exact ⟨text, first, .zero understood named external first⟩
  · intro sh line result barren
    obtain ⟨s, executed, asked⟩ := barren.executeLine
    obtain ⟨calls, passage, counts⟩ := asked.passage faithful
    exact ⟨s, calls, executed, passage, counts⟩
  · intro sh line result barren
    obtain ⟨m, executed, asked⟩ := barren.executeLine
    rw [executed, asked.machine_eq]

end

/-- A zero in the last text of a command, behind an output that would have been emptied, on a machine; and a
shell without a home that is asked to go there, with an output that is not made. -/
theorem barren_changes_nothing_rehearsed :
    let sh : Shell Machine :=
      { state := { pid := 7, directory := [47] }, system := Machine.boot { environment := [], mask := 0 } }
    sh.executeLine Machine.kernel "cat $$ > out < i\x00n &" =
        some (.error (.process (.nulInArgument "i\x00n")), sh) ∧
      ∃ s calls, (Rehearsal.shell {}).executeLine Rehearsal.kernel "cd ~/$$ > out &" =
          some (.error (.directory .homeNotFound), { Rehearsal.shell {} with system := s }) ∧
        Passage [] calls s.happened ∧ ∀ call ∈ calls, ∃ seen, call = .counted seen := by
  intro sh
  obtain ⟨-, rehearsed, onMachine⟩ := barren_changes_nothing Rehearsal.faithful
  constructor
  · apply onMachine
    have understood : sh.Understands "cat $$ > out < i\x00n &"
        { argv := ["cat", "7"], input := some "i\x00n", output := some "out", background := true } :=
      ⟨{ argv := ["cat", "$$"], input := some "i\x00n", output := some "out", background := true },
        by decide, by decide⟩
    exact .zero understood rfl (by decide) ⟨["cat", "7"], ["out"], rfl, by decide, by decide⟩
  · apply rehearsed
    have understood : (Rehearsal.shell {}).Understands "cd ~/$$ > out &"
        { argv := ["cd", "~/99"], output := some "out", background := true } :=
      ⟨{ argv := ["cd", "~/$$"], output := some "out", background := true }, by decide, by decide⟩
    refine .homeless understood rfl ?_ ?_
    · intro first head
      obtain rfl := Option.some.inj head
      decide
    · intro home isHome
      cases isHome with
      | environment named => cases named
      | account unnamed known => cases known

end JobShell
