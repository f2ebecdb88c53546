/-
Module: JobShell.Proofs.BuiltinLines
Purpose: Which lines make a child, and what the others come to.  A builtin is chosen by its exact name, which
  putting in the shell's number neither makes nor takes away.  A line whose program is none makes a child if it can
  be planned and the system grants it; a line that names a builtin asks the system for a directory at most, or
  writes one line, and nothing else of it counts than its words.
Main exports: IsExternal, AsksForChild, Kernel.SharesBuiltins, Machine.OpensNothing, builtin_lines
-/
import JobShell.Proofs.ControlLoop
import JobShell.Proofs.Opening
import JobShell.Proofs.Retention

namespace JobShell

variable {σ : Type}

/-! ### Lines and kernels -/

/-- A line that holds a command with a program that is no builtin. -/
def IsExternal (text : String) (c : Command) : Prop :=
  Command.parse text = .ok (some c) ∧
    ∃ name arguments, c.argv = name :: arguments ∧ name ∉ ["cd", "status", "exit"]

/-- A line asks for a child: its program is no builtin, and there is a plan for it in the mode that is read. -/
def AsksForChild (k : Kernel σ) (sh : Shell σ) (text : String) (plan : LaunchPlan) (s : σ) : Prop :=
  ∃ c seen, IsExternal text c ∧ k.toggles sh.system = (seen, s) ∧
    LaunchPlan.ofCommand (c.substitutePid (toString sh.state.pid))
      (runsInBackground c (ModeSwitch.isForegroundOnly { toggles := seen })) = .ok plan

/-- Two kernels that need not have more in common than what the builtins ask for: neither the mode nor how children
are made, waited for, signalled or anything else. -/
structure Kernel.SharesBuiltins (k k' : Kernel σ) : Prop where
  changeDirectory : k.changeDirectory = k'.changeDirectory
  workingDirectory : k.workingDirectory = k'.workingDirectory
  homeVariable : k.homeVariable = k'.homeVariable
  accountHome : k.accountHome = k'.accountHome
  write : k.write = k'.write

/-! ### Names -/

theorem Builtin.ofName_eq_none_iff {name : String} :
    Builtin.ofName name = none ↔ name ∉ ["cd", "status", "exit"] := by
  unfold Builtin.ofName
  split <;> simp_all

theorem Builtin.exists_of_mem {name : String} (named : name ∈ ["cd", "status", "exit"]) :
    ∃ builtin, Builtin.ofName name = some builtin := by
  apply Option.ne_none_iff_exists'.1
  intro unnamed
  exact Builtin.ofName_eq_none_iff.1 unnamed named

/-- Putting in the shell's number neither makes a builtin's name nor takes one away. -/
theorem Builtin.ofName_substitute (word : String) (pid : Pid) :
    Builtin.ofName (PidMark.substitute word (toString pid)) = Builtin.ofName word := by
  cases named : Builtin.ofName word with
  | some builtin => rw [Builtin.substitute_eq named, named]
  | none =>
      cases made : Builtin.ofName (PidMark.substitute word (toString pid)) with
      | none => rfl
      | some builtin =>
          have same := Builtin.eq_of_substitute made rfl
          rw [← same, named] at made
          cases made

/-! ### Lines that make no child -/

section

variable {k : Kernel σ} {history : σ → History} {sh : Shell σ} {text : String}

/-- A line whose program is no builtin is a launch. -/
theorem executeLine_external {c : Command} (external : IsExternal text c) (k : Kernel σ) (sh : Shell σ) :
    sh.executeLine k text = sh.launchCommand k (c.substitutePid (toString sh.state.pid)) := by
  obtain ⟨parsed, name, arguments, argv, unnamed⟩ := external
  have words : c.isEmpty = false := by simp [Command.isEmpty, argv]
  have head : (c.substitutePid (toString sh.state.pid)).program.bind Builtin.ofName = none := by
    rw [Command.program_substitutePid, Command.program, argv, List.head?_cons, Option.map_some,
      Option.bind_some, Builtin.ofName_substitute]
    exact Builtin.ofName_eq_none_iff.2 unnamed
  simp only [Shell.executeLine, parsed, words, Bool.false_eq_true, if_false, Shell.dispatch, head]

/-- Every other line comes back, and makes no child. -/
theorem executeLine_barren (faithful : k.Faithful history) (sh : Shell σ)
    (other : ∀ c, ¬ IsExternal text c) :
    ∃ result sh' calls, sh.executeLine k text = some (result, sh') ∧
      Passage (history sh.system) calls (history sh'.system) ∧ ∀ call ∈ calls, call.makes = none := by
  cases parsed : Command.parse text with
  | error e =>
      exact ⟨.error (.syntactic e), sh, [], by simp [Shell.executeLine, parsed], .refl _, by simp⟩
  | ok command =>
      cases command with
      | none => exact ⟨.ok .proceed, sh, [], by simp [Shell.executeLine, parsed], .refl _, by simp⟩
      | some c =>
          cases argv : c.argv with
          | nil =>
              have idle : sh.executeLine k text = some (.ok .proceed, sh) := by
                simp [Shell.executeLine, parsed, Command.isEmpty, argv]
              exact ⟨_, sh, [], idle, .refl _, by simp⟩
          | cons name arguments =>
              have named : name ∈ ["cd", "status", "exit"] := by
                by_contra unnamed
                exact other c ⟨parsed, name, arguments, argv, unnamed⟩
              obtain ⟨builtin, known⟩ := Builtin.exists_of_mem named
              obtain ⟨words, executed⟩ :=
                executeLine_builtin parsed (by simp [Command.program, argv]) known k sh
              obtain ⟨calls, -, passage, plain⟩ := runBuiltin_deed faithful text
                (Prod.eta (sh.runBuiltin k builtin words)).symm
              exact ⟨_, _, calls, executed, passage, fun call member => (plain call member).1⟩

/-! ### Lines that make a child -/

/-- Behind the making of its child, a launch makes no other. -/
theorem launch_behind_fork (faithful : k.Faithful history) {c : Command} {foregroundOnly : Bool}
    {plan : LaunchPlan} {pid : Pid} {s t u : σ} {outcome : Except ProcessFailure Launch}
    (planned : LaunchPlan.ofCommand c (runsInBackground c foregroundOnly) = .ok plan)
    (forked : k.fork plan s = (.ok pid, t)) (launched : launch k c foregroundOnly s = some (outcome, u)) :
    ∃ later, Passage (history t) later (history u) ∧ ∀ call ∈ later, call.makes = none := by
  rw [launch_of_granted planned forked] at launched
  cases honoured : runsInBackground c foregroundOnly with
  | true =>
      rw [honoured] at launched
      obtain ⟨result, asked, -⟩ := attend_background launched
      obtain ⟨answer, -, asking⟩ := pollFor_passage faithful asked
      exact ⟨_, asking, by simp [Event.makes]⟩
  | false =>
      rw [honoured] at launched
      obtain ⟨result, waited, -⟩ := attend_foreground launched
      obtain ⟨interrupted, answer, -, waiting⟩ := waitFor_passage faithful waited
      exact ⟨_, waiting, fun call => makes_of_mem_waits⟩

/-- A launch makes the child that its plan is for, if there is one and the system grants it, and no other. -/
theorem forked_mem_launch_iff (faithful : k.Faithful history) {c : Command} {foregroundOnly : Bool} {s u : σ}
    {outcome : Except ProcessFailure Launch} {calls : List Event}
    (launched : launch k c foregroundOnly s = some (outcome, u))
    (passage : Passage (history s) calls (history u)) {plan : LaunchPlan} {pid : Pid} :
    .forked plan pid ∈ calls ↔
      LaunchPlan.ofCommand c (runsInBackground c foregroundOnly) = .ok plan ∧
        ∃ t, k.fork plan s = (.ok pid, t) := by
  cases planned : LaunchPlan.ofCommand c (runsInBackground c foregroundOnly) with
  | error e =>
      rw [launch_of_unplanned planned] at launched
      obtain ⟨-, rfl⟩ := Prod.mk.inj (Option.some.inj launched)
      obtain rfl := (Passage.refl (history s)).calls_unique passage
      simp
  | ok first =>
      rcases granted : k.fork first s with ⟨reason | number, t⟩
      · rw [launch_of_refused planned granted] at launched
        obtain ⟨-, rfl⟩ := Prod.mk.inj (Option.some.inj launched)
        obtain rfl := (faithful.fork_error granted).calls_unique passage
        constructor
        · simp
        · rintro ⟨same, t', made⟩
          obtain rfl := Except.ok.inj same
          simp [granted] at made
      · obtain ⟨later, after, barren⟩ := launch_behind_fork faithful planned granted launched
        obtain rfl := ((faithful.fork_ok granted).trans after).calls_unique passage
        constructor
        · intro made
          obtain ⟨rfl, rfl⟩ := eq_of_forked_mem made barren
          exact ⟨rfl, t, granted⟩
        · rintro ⟨same, t', made⟩
          obtain rfl := Except.ok.inj same
          obtain ⟨same, -⟩ := Prod.mk.inj (granted.symm.trans made)
          obtain rfl := Except.ok.inj same
          exact List.mem_cons_self

/-- A line makes a child exactly if it asks for one and the system grants it. -/
theorem forked_mem_iff (faithful : k.Faithful history) {result : Except Failure Flow} {sh' : Shell σ}
    {events : List Event} (executed : sh.executeLine k text = some (result, sh'))
    (happened : history sh'.system = history sh.system ++ events) {plan : LaunchPlan} {pid : Pid} :
    .forked plan pid ∈ events ↔ ∃ s t, AsksForChild k sh text plan s ∧ k.fork plan s = (.ok pid, t) := by
  have among : .forked plan pid ∈ events ↔ .forked plan pid ∈ events.filter Event.isCall := by
    simp [Event.isCall]
  rw [among]
  by_cases asks : ∃ c, IsExternal text c
  · obtain ⟨c, external⟩ := asks
    rcases counted : k.toggles sh.system with ⟨seen, s⟩
    have counting := faithful.toggles sh.system
    simp only [counted] at counting
    rw [executeLine_external external, launchCommand_eq counted, Option.map_eq_some_iff] at executed
    obtain ⟨⟨outcome, t⟩, started, settled⟩ := executed
    obtain ⟨calls, -, passage⟩ := launch_passage faithful started
    obtain ⟨told, aside, telling⟩ := settleLaunch_passage faithful sh t outcome
    rw [settled] at telling
    rw [((counting.trans passage).trans telling).filter_eq happened]
    have inside : .forked plan pid ∈ [.counted seen] ++ calls ++ told ↔ .forked plan pid ∈ calls := by
      constructor
      · intro member
        rcases List.mem_append.1 member with here | there
        · simpa using here
        · simpa [Event.makes] using (aside _ there).makes
      · intro member
        simp [member]
    rw [inside, forked_mem_launch_iff faithful started passage]
    constructor
    · rintro ⟨planned, u, granted⟩
      exact ⟨s, u, ⟨c, seen, external, counted, planned⟩, granted⟩
    · rintro ⟨_, u, ⟨c', _, ⟨parsed, -⟩, same, planned⟩, granted⟩
      obtain ⟨rfl, rfl⟩ := Prod.mk.inj (counted.symm.trans same)
      obtain rfl : c = c' := by simpa using external.1.symm.trans parsed
      exact ⟨planned, u, granted⟩
  · have none := not_exists.1 asks
    obtain ⟨result', reached, calls, executed', passage, barren⟩ := executeLine_barren faithful sh none
    obtain ⟨-, rfl⟩ := Prod.mk.inj (Option.some.inj (executed.symm.trans executed'))
    rw [passage.filter_eq happened]
    constructor
    · intro member
      simpa [Event.makes] using barren _ member
    · rintro ⟨_, _, ⟨c, _, external, -⟩, -⟩
      exact absurd external (none c)

/-- A line that never comes back has made its child. -/
theorem fork_of_executeLine_none (faithful : k.Faithful history) (stuck : sh.executeLine k text = none) :
    ∃ plan pid s t, AsksForChild k sh text plan s ∧ k.fork plan s = (.ok pid, t) ∧
      ∃ seen, Passage (history sh.system) [.counted seen, .forked plan pid] (history t) := by
  by_cases asks : ∃ c, IsExternal text c
  · obtain ⟨c, external⟩ := asks
    rcases counted : k.toggles sh.system with ⟨seen, s⟩
    have counting := faithful.toggles sh.system
    simp only [counted] at counting
    rw [executeLine_external external, launchCommand_eq counted, Option.map_eq_none_iff] at stuck
    obtain ⟨-, plan, pid, t, planned, granted, -⟩ := launch_eq_none stuck
    exact ⟨plan, pid, s, t, ⟨c, seen, external, counted, planned⟩, granted, seen,
      counting.trans (faithful.fork_ok granted)⟩
  · have none := not_exists.1 asks
    obtain ⟨_, _, _, executed, -⟩ := executeLine_barren faithful sh none
    rw [stuck] at executed
    cases executed

/-- A line whose program is no builtin asks for a child, or it cannot be planned and fails for that. -/
theorem asksForChild_or_unplanned {c : Command} (external : IsExternal text c) (k : Kernel σ) (sh : Shell σ) :
    (∃ plan s, AsksForChild k sh text plan s) ∨
      ∃ e background s, LaunchPlan.ofCommand (c.substitutePid (toString sh.state.pid)) background = .error e ∧
        sh.executeLine k text = some (.error (.process e), { sh with system := s }) := by
  rcases counted : k.toggles sh.system with ⟨seen, s⟩
  cases planned : LaunchPlan.ofCommand (c.substitutePid (toString sh.state.pid))
      (runsInBackground (c.substitutePid (toString sh.state.pid))
        (ModeSwitch.isForegroundOnly { toggles := seen })) with
  | ok plan => exact .inl ⟨plan, s, c, seen, external, counted, planned⟩
  | error e =>
      refine .inr ⟨e, _, s, planned, ?_⟩
      rw [executeLine_external external, launchCommand_eq counted, launch_of_unplanned planned]
      rfl

/-! ### Lines that name a builtin -/

/-- A builtin does the same on two kernels that share what it asks for. -/
theorem runBuiltin_congr {k' : Kernel σ} (shares : k.SharesBuiltins k') (builtin : Builtin)
    (arguments : List String) (sh : Shell σ) :
    sh.runBuiltin k builtin arguments = sh.runBuiltin k' builtin arguments := by
  cases builtin with
  | exit => rfl
  | status => simp only [Shell.runBuiltin, shares.write]
  | cd =>
      simp only [Shell.runBuiltin, Shell.changeDirectory, Shell.enter, Shell.home,
        shares.changeDirectory, shares.workingDirectory, shares.homeVariable, shares.accountHome]

/-- Of a line that names a builtin nothing counts but its words. -/
theorem executeLine_congr {k' : Kernel σ} {text' name : String} {arguments : List String} {c c' : Command}
    (shares : k.SharesBuiltins k') (parsed : Command.parse text = .ok (some c))
    (parsed' : Command.parse text' = .ok (some c')) (argv : c.argv = name :: arguments)
    (same : c'.argv = c.argv) (named : name ∈ ["cd", "status", "exit"]) :
    sh.executeLine k text = sh.executeLine k' text' := by
  obtain ⟨builtin, known⟩ := Builtin.exists_of_mem named
  have words : (c'.substitutePid (toString sh.state.pid)).arguments =
      (c.substitutePid (toString sh.state.pid)).arguments := by
    simp only [Command.arguments, Command.substitutePid, same]
  rw [executeLine_eq_runBuiltin parsed (by simp [Command.program, argv]) known,
    executeLine_eq_runBuiltin parsed' (by simp [Command.program, same, argv]) known, words,
    runBuiltin_congr shares]

/-- What a builtin may do, and what it leaves of the shell's memory. -/
structure Shell.OnlyTells (history : σ → History) (sh sh' : Shell σ) : Prop where
  calls : ∃ calls, Passage (history sh.system) calls (history sh'.system) ∧
    ∀ call ∈ calls, (∃ path, call = .moved path) ∨ call = .said sh.state.lastStatus.describe
  background : sh'.state.background = sh.state.background
  lastStatus : sh'.state.lastStatus = sh.state.lastStatus
  reported : sh'.reported = sh.reported

theorem runBuiltin_onlyTells (faithful : k.Faithful history) (builtin : Builtin) (arguments : List String)
    (sh : Shell σ) : sh.OnlyTells history (sh.runBuiltin k builtin arguments).2 := by
  cases builtin with
  | exit => exact ⟨⟨[], .refl _, by simp⟩, rfl, rfl, rfl⟩
  | status => exact ⟨⟨_, say_passage faithful _ sh, by simp⟩, rfl, rfl, rfl⟩
  | cd =>
      simp only [Shell.runBuiltin, Shell.changeDirectory]
      cases Shell.directoryTarget arguments (Shell.home k sh.system) with
      | error e => exact ⟨⟨[], .refl _, by simp⟩, rfl, rfl, rfl⟩
      | ok target =>
          simp only
          rcases entered : Shell.enter k target sh.system with ⟨cause | _, t⟩
          · exact ⟨⟨[], enter_error faithful entered, by simp⟩, rfl, rfl, rfl⟩
          · exact ⟨⟨_, enter_ok faithful entered, by simp⟩, rfl, rfl, rfl⟩

end

/-! ### Builtins on the machine -/

/-- No process has been made and no file has been opened or made: the same processes have the same open files, and
no more is changed on the disk than that one node may have got longer. -/
structure Machine.OpensNothing (m m' : Machine) : Prop where
  processes : m'.processes.map (·.number) = m.processes.map (·.number)
  descriptors : ∀ number, (m'.process? number).map (·.descriptors) = (m.process? number).map (·.descriptors)
  disk : ∃ place, m.disk.Lengthened place m'.disk

namespace Machine

theorem OpensNothing.refl (m : Machine) : m.OpensNothing m :=
  ⟨rfl, fun _ => rfl, none, .refl _ _⟩

/-- Each process is changed by itself and keeps its number and its open files. -/
theorem OpensNothing.of_map {m m' : Machine} {f : Process → Process}
    (processes : m'.processes = m.processes.map f) (number : ∀ p, (f p).number = p.number)
    (files : ∀ number p, m.process? number = some p → (f p).descriptors = p.descriptors)
    (disk : ∃ place, m.disk.Lengthened place m'.disk) : m.OpensNothing m' := by
  constructor
  · rw [processes, List.map_map]
    apply List.map_congr_left
    intro p _
    exact number p
  · intro wanted
    have found : m'.process? wanted = (m.process? wanted).map f := by
      rw [← process?_map f number, process?, processes]
      rfl
    rw [found, Option.map_map]
    apply Option.map_congr
    intro p there
    exact files wanted p there
  · exact disk

theorem changeDirectory_opensNothing (path : Text.Bytes) (m : Machine) :
    m.OpensNothing (m.changeDirectory path).2 := by
  rw [changeDirectory]
  split
  · exact .refl m
  · split_ifs
    · exact .refl m
    · exact .refl m
    · refine .of_map rfl ?_ ?_ ⟨none, .refl _ _⟩
      · intro p
        split_ifs <;> rfl
      · intro number p _
        split_ifs <;> rfl

theorem write_opensNothing (stream : Stream) {text : String} (something : text ≠ "") (m : Machine) :
    m.OpensNothing (m.write stream text) := by
  have tells := put_tells m.shellTask (streamDescriptor stream) something
  have itself : (m.shellTask.put (streamDescriptor stream) (bytesOfText text)).process = m.shell :=
    tells.process_eq
  rw [write, store, itself]
  refine .of_map rfl ?_ ?_ tells.lengthened
  · intro p
    split_ifs with here
    · exact here.symm
    · rfl
  · intro number p found
    split_ifs with here
    · have looked : m.process? m.shellNumber = some p := by
        rw [← here, number_of_process? found, found]
      simp [shell, looked]
    · rfl

/-- A builtin opens nothing. -/
theorem runBuiltin_opensNothing (builtin : Builtin) (arguments : List String) (sh : Shell Machine) :
    sh.system.OpensNothing (sh.runBuiltin kernel builtin arguments).2.system := by
  cases builtin with
  | exit => exact .refl _
  | status =>
      change sh.system.OpensNothing (whileAlive _ sh.system)
      rw [whileAlive]
      split_ifs
      · exact .refl _
      · exact write_opensNothing _ (by simp) _
  | cd =>
      simp only [Shell.runBuiltin, Shell.changeDirectory]
      cases Shell.directoryTarget arguments (Shell.home kernel sh.system) with
      | error e => exact .refl _
      | ok target =>
          have entered : sh.system.OpensNothing (Shell.enter kernel target sh.system).2 := by
            rw [Shell.enter]
            split_ifs
            · exact .refl _
            · have asked : sh.system.OpensNothing (kernel.changeDirectory target sh.system).2 := by
                change sh.system.OpensNothing (answered _ (changeDirectory target) sh.system).2
                rw [answered]
                split_ifs
                · exact .refl _
                · exact changeDirectory_opensNothing target sh.system
              generalize kernel.changeDirectory target sh.system = answer at asked ⊢
              rcases answer with ⟨_ | _, m⟩ <;> exact asked
          simp only
          generalize Shell.enter kernel target sh.system = reached at entered ⊢
          rcases reached with ⟨_ | _, m⟩ <;> exact entered

end Machine

/-! ### All lines -/

/-- Which lines make a child, and what lines that name a builtin come to.  Putting in the shell's number makes no
builtin's name and takes none away.  A child is made exactly if the line asks for one and the system grants it; a
line whose program is no builtin asks for one unless it cannot be planned.  Any two lines with the same words that
name a builtin do the same, whatever else they hold and whatever the mode; they do nothing but enter a directory or
tell the last status, and leave the background and the last status as they are.  On the machine no file is
opened or made. -/
theorem builtin_lines {k : Kernel σ} {history : σ → History} (faithful : k.Faithful history) (sh : Shell σ)
    (text : String) :
    (∀ word, Builtin.ofName (PidMark.substitute word (toString sh.state.pid)) = Builtin.ofName word) ∧
    (∀ result sh' events, sh.executeLine k text = some (result, sh') →
      history sh'.system = history sh.system ++ events → ∀ plan pid,
        (.forked plan pid ∈ events ↔ ∃ s t, AsksForChild k sh text plan s ∧ k.fork plan s = (.ok pid, t))) ∧
    (sh.executeLine k text = none →
      ∃ plan pid s t, AsksForChild k sh text plan s ∧ k.fork plan s = (.ok pid, t) ∧
        ∃ seen, Passage (history sh.system) [.counted seen, .forked plan pid] (history t)) ∧
    (∀ c, IsExternal text c → (∃ plan s, AsksForChild k sh text plan s) ∨
      ∃ e background s,
        LaunchPlan.ofCommand (c.substitutePid (toString sh.state.pid)) background = .error e ∧
          sh.executeLine k text = some (.error (.process e), { sh with system := s })) ∧
    (∀ c name arguments, Command.parse text = .ok (some c) → c.argv = name :: arguments →
      name ∈ ["cd", "status", "exit"] →
      (∀ k' text' c', k.SharesBuiltins k' → Command.parse text' = .ok (some c') → c'.argv = c.argv →
        sh.executeLine k text = sh.executeLine k' text') ∧
      (∃ result sh', sh.executeLine k text = some (result, sh') ∧ sh.OnlyTells history sh') ∧
      ∀ sh : Shell Machine, ∃ result sh', sh.executeLine Machine.kernel text = some (result, sh') ∧
        sh.system.OpensNothing sh'.system) := by
  refine ⟨?names, ?makes, ?stuck, ?asks, ?builtins⟩
  case names => exact fun word => Builtin.ofName_substitute word sh.state.pid
  case makes => exact fun result sh' events executed happened plan pid => forked_mem_iff faithful executed happened
  case stuck => exact fork_of_executeLine_none faithful
  case asks => exact fun c external => asksForChild_or_unplanned external k sh
  case builtins =>
    intro c name arguments parsed argv named
    have program : c.program = some name := by simp [Command.program, argv]
    obtain ⟨builtin, known⟩ := Builtin.exists_of_mem named
    refine ⟨?_, ?_, ?_⟩
    · intro k' text' c' shares parsed' same
      exact executeLine_congr shares parsed parsed' argv same named
    · exact ⟨_, _, executeLine_eq_runBuiltin parsed program known k sh,
        runBuiltin_onlyTells faithful builtin _ sh⟩
    · intro other
      exact ⟨_, _, executeLine_eq_runBuiltin parsed program known Machine.kernel other,
        Machine.runBuiltin_opensNothing builtin _ other⟩

/-- A builtin that asks for a file and the background does the same as the builtin alone, also in the other mode. -/
theorem builtin_lines_rehearsed :
    let sh := Rehearsal.shell {}
    let other := { Rehearsal.kernel with toggles := fun s => (1, s) }
    sh.executeLine Rehearsal.kernel "status > out &" = sh.executeLine other "status" ∧
      sh.executeLine Rehearsal.kernel "status > out &" =
        some (.ok .proceed, Rehearsal.shell { happened := [.said "exit value 0"] }) := by
  intro sh other
  obtain ⟨-, -, -, -, builtins⟩ := builtin_lines Rehearsal.faithful sh "status > out &"
  have parsed : Command.parse "status > out &" =
      .ok (some { argv := ["status"], output := some "out", background := true }) := by decide +kernel
  have parsed' : Command.parse "status" = .ok (some { argv := ["status"] }) := by decide +kernel
  constructor
  · exact (builtins _ _ _ parsed rfl (by simp)).1 other _ _ ⟨rfl, rfl, rfl, rfl, rfl⟩ parsed' rfl
  · rfl

end JobShell
