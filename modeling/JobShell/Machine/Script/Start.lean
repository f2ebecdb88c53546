/-
Module: JobShell.Machine.Script.Start
Purpose: Starting the script interpreter: its options, where its commands come from, and what a script knows
  from the beginning.
Main exports: startScript
-/
import JobShell.Machine.Script.Step

namespace JobShell.Machine.Script

open Text (Bytes)

/-!
## Options
-/

/-- What the arguments of the interpreter ask for: the switches, and whether the first operand is a text of
commands. -/
structure StartPlan where
  switches : List Switch := []
  isText : Bool := false
  /-- The switches that have been turned off. -/
  off : List Switch := []
  /-- Whether the switches are shown because a name was left out, and whether as commands. -/
  shows : List Bool := []
deriving Inhabited

/-- Turns a switch on or off. -/
def StartPlan.turn (plan : StartPlan) (switch : Switch) (on : Bool) : StartPlan :=
  { plan with
    switches := Script.turn plan.switches switch on
    off := Script.turn plan.off switch !on }

/-- Takes the letters of a word; the letter for names takes the next word. -/
def takeStartLetters (on : Bool) :
    List Char → List (List Char) → StartPlan → Except (List Char) (StartPlan × List (List Char))
  | [], rest, plan => .ok (plan, rest)
  | c :: letters, rest, plan =>
      if c = 'c' then takeStartLetters on letters rest { plan with isText := true }
      else if c = 'l' then takeStartLetters on letters rest plan
      else if c = 'o' then
        match rest with
        | [] => takeStartLetters on letters [] { plan with shows := plan.shows ++ [!on] }
        | name :: more =>
            match Switch.ofName? name with
            | some switch => takeStartLetters on letters more (plan.turn switch on)
            | none => .error ("Illegal option -o ".toList ++ name)
      else
        match Switch.ofLetter? c with
        | some switch => takeStartLetters on letters rest (plan.turn switch on)
        | none => .error ("Illegal option -".toList ++ [c])

/-- Reads the options of the interpreter, in at most so many steps; gives the operands too. -/
def readStart : Nat → StartPlan → List (List Char) →
    Except (List Char) (StartPlan × List (List Char))
  | 0, plan, words => .ok (plan, words)
  | fuel + 1, plan, words =>
      match words with
      | ['-'] :: rest | ['-', '-'] :: rest => .ok (plan, rest)
      | (sign :: letters) :: rest =>
          if sign = '-' || sign = '+' then
            match takeStartLetters (sign == '-') letters rest plan with
            | .error text => .error text
            | .ok (plan', left) => readStart fuel plan' left
          else .ok (plan, words)
      | _ => .ok (plan, words)

/-!
## What a script knows from the beginning
-/

/-- The signals that a process ignores. -/
def ignoredSignals (p : Process) : List Nat :=
  (List.range (lastSignal + 1)).filter fun signal => signal != 0 && p.dispositions signal == .ignore

/-- The variables that every script has. -/
def firstVariables : Variables :=
  let fixed (name : String) (value : Option String) : Variable :=
    ⟨name.toList, value.map (·.toList), false, false, true⟩
  [fixed "OPTIND" (some "1"), fixed "PS4" (some "+ "), fixed "PS2" (some "> "),
    fixed "PS1" (some "$ "), ⟨"PATH".toList, some usualSearchPath, false, false, true⟩,
    fixed "MAILPATH" none, fixed "MAIL" none,
    ⟨"IFS".toList, some usualSeparators, false, false, true⟩]

/-- Sets a variable that is not fixed yet. -/
def putVariable (vars : Variables) (name value : List Char) (exported : Bool) : Variables :=
  match vars.set name (some value) { exported := exported } with
  | .ok vars' => vars'
  | .error _ => vars

/-- The variables of a script that starts in an environment. -/
def startingVariables (p : Process) : Variables :=
  let given := p.environment.foldl (fun vars entry =>
    let name := charsOfText entry.1
    if isName name then putVariable vars name (charsOf entry.2) true else vars) firstVariables
  let counted := putVariable given "OPTIND".toList ['1'] false
  let split := putVariable counted "IFS".toList usualSeparators false
  putVariable split "PPID".toList (toString p.parent).toList false

/-- The state in which a script starts. -/
def startingState (p : Process) (name : List Char) : ScriptState :=
  { name := name
    bindings := startingVariables p
    immune := ignoredSignals p
    number := p.number }

/-- The name that the environment gives to the working directory, if it is right. -/
def givenPlace? (t : Task) (s : ScriptState) : Option (List Char) :=
  (s.value? "PWD").filter fun path =>
    path.head? == some '/' &&
      match t.resolve (bytesOf path) with
      | .ok id => id == t.process.directory
      | .error _ => false

/-- Finds out where the script is. -/
def takePlace (scene : Scene) : Scene :=
  let (path, told) := match givenPlace? scene.task scene.state with
    | some path => (path, scene)
    | none => systemName scene
  told.modifyState fun s =>
    { s with
      directory := path
      bindings := putVariable s.bindings "PWD".toList path true }

/-!
## Starting
-/

/-- The task in which a process has become a script. -/
def becomeScript (scene : Scene) : Task :=
  { scene.task with
    process := { scene.task.process with activity := .script scene.state scene.stack } }

/-- Refuses to start. -/
def refuseStart (scene : Scene) (text : List Char) : Task :=
  (scene.complain text).task.exit 2

/-- Runs a script under the switches that a plan asks for. -/
def runScript (scene : Scene) (plan : StartPlan) (name : List Char) (positional : List (List Char))
    (first : Frame) (fromInput : Bool) : Task :=
  let s := scene.state
  let wanted := if fromInput then turn plan.switches .stdin true else plan.switches
  let asksForJobs := wanted.contains .monitor || wanted.contains .interactive
  let told :=
    if asksForJobs then scene.complain "can't access tty; job control turned off".toList else scene
  becomeScript
    { told with
      state :=
        { s with
          name := name
          positional := { words := positional }
          switches := turn wanted .monitor false }
      stack := [first] }

/-- Shows the switches, if that is asked for; as yet those count as on that have not been turned off. -/
def StartPlan.showAll (plan : StartPlan) (scene : Scene) : Scene :=
  let undecided :=
    scene.modifyState fun s => { s with switches := Switch.all.filter (!plan.off.contains ·) }
  let shown := plan.shows.foldl showSwitches undecided
  { shown with
    task := shown.task.flush.2
    state := scene.state }

/-- Starts the script interpreter with its name and arguments: a text of commands, a file, or the standard
input. -/
def startScript (m : Machine) (t : Task) (arguments : List Bytes) : Task :=
  let self := charsOf (arguments.headD [])
  let words := arguments.tail.map charsOf
  let scene := takePlace { around := m, task := t, state := startingState t.process self, stack := [] }
  match readStart (words.length + 1) {} words with
  | .error text => refuseStart scene text
  | .ok (plan, operands) =>
      let ready := plan.showAll scene
      let reads := plan.switches.contains .stdin
      let ofInput (positional : List (List Char)) : Task :=
        runScript ready plan self positional (.source fileSource .input true {} (some 0)) true
      match plan.isText, operands with
      | true, [] => refuseStart ready "-c requires an argument".toList
      | true, text :: more =>
          runScript ready plan (more.headD self) more.tail
            (.source (textSource text) .nothing false {} (some 0)) false
      | false, [] => ofInput []
      | false, file :: more =>
          if reads then ofInput operands
          else
            match ready.task.openPath (bytesOf file) OpenMode.reading with
            | .error reason =>
                refuseStart ready
                  ("cannot open ".toList ++ file ++ ": ".toList ++ reasonFor reason "No such file")
            | .ok (id, task) =>
                runScript { ready with task := task } plan file more
                  (.source fileSource (.file id) true {} (some 0)) false

end JobShell.Machine.Script
