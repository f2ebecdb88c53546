/-
Module: JobShell.Machine.Script.Running
Purpose: Simple commands: finding out what is meant, setting variables, and carrying the command out.
Main exports: prepareCall, assignAll, Scene.perform, Scene.launch
-/
import JobShell.Machine.Script.Commands.Dispatch
import JobShell.Machine.Script.Redirection

namespace JobShell.Machine.Script

/-!
## What is meant
-/

/-- The words of a simple command: the fields that some of them have come to, and those that are left. -/
structure Unfolding where
  shown : List (List Char) := []
  left : List Word := []
deriving Inhabited

/-- Works out words until there is a field at a place, if they come to that many. -/
def unfoldTo (place : Nat) (shown : List (List Char)) : List Word → Expanding Unfolding
  | [] => pure { shown := shown }
  | word :: rest =>
      if place < shown.length then pure { shown := shown, left := word :: rest }
      else do
        let fields ← expandFields word
        unfoldTo place (shown ++ fields) rest

/-- Makes sure that there is a field at a place, if there are words for it. -/
def Unfolding.reach (u : Unfolding) (place : Nat) : Expanding Unfolding :=
  unfoldTo place u.shown u.left

/-- What follows the word that asks for a command: the place of its name, if one follows, and whether it is
looked for where programs usually are. -/
structure CommandStart where
  unfolding : Unfolding
  place : Option Nat := none
  usualPath : Bool := false

/-- How many words that ask for a command are gone through. -/
def commandLimit : Nat := 1048576

/-- Goes through the options behind the word that asks for a command. -/
def commandStart (usualPath : Bool) : Nat → Nat → Unfolding → Expanding CommandStart
  | 0, _, u => pure { unfolding := u, usualPath := usualPath }
  | fuel + 1, place, u => do
      let there ← u.reach place
      match there.shown[place]? with
      | none => return { unfolding := there, usualPath := usualPath }
      | some ['-', '-'] =>
          let behind ← there.reach (place + 1)
          let name := if place + 1 < behind.shown.length then some (place + 1) else none
          return { unfolding := behind, place := name, usualPath := usualPath }
      | some ('-' :: letters) =>
          if letters.isEmpty then
            return { unfolding := there, place := some place, usualPath := usualPath }
          else if letters.all (· == 'p') then commandStart true fuel (place + 1) there
          else
            return { unfolding := there, usualPath := usualPath || letters.head? == some 'p' }
      | some _ => return { unfolding := there, place := some place, usualPath := usualPath }

/-- What is known of a simple command before all its words have been worked out; `start` is the place of the
name of the command. -/
structure Meaning where
  unfolding : Unfolding
  start : Nat := 0
  own : Option OwnCommand := none
  plain : Bool := false
  usualPath : Bool := false
  special : Bool := false

/-- Whether a function is meant by a name. -/
def isFunction (s : ScriptState) (plain : Bool) (name : List Char) : Bool :=
  !plain && (s.commands.function? name).isSome

/-- Finds out which command of the script itself is meant, if any, going through words that ask for a
command. -/
def findMeaning : Nat → Meaning → Expanding Meaning
  | 0, meaning => pure meaning
  | fuel + 1, meaning => do
      let s ← Expanding.state
      let name := meaning.unfolding.shown.getD meaning.start []
      match if isFunction s meaning.plain name then none else OwnCommand.ofName? name with
      | none => return { meaning with own := none }
      | some what =>
          let special := if meaning.plain then meaning.special else isSpecialCommand name
          let known := { meaning with own := some what, special := special }
          if what ≠ .command then return known
          else
            let start ← commandStart known.usualPath commandLimit (known.start + 1) known.unfolding
            match start.place with
            | none =>
                return { known with unfolding := start.unfolding, usualPath := start.usualPath }
            | some place =>
                findMeaning fuel
                  { known with
                    unfolding := start.unfolding
                    start := place
                    plain := true
                    usualPath := start.usualPath }

/-- Works out the words that are left; where values can be given to variables they stay together. -/
def expandArguments (assigns : Bool) : List Word → Expanding (List (List Char))
  | [] => pure []
  | word :: rest => do
      let fields ←
        if assigns && isAssignment word then do
          let text ← expandAssignment word
          pure [text]
        else expandFields word
      let more ← expandArguments assigns rest
      return fields ++ more

/-- Works out the words of a simple command. -/
def expandCall (standing : Standing) (assignments words : List Word) : Expanding Call := do
  let first ← ({ left := words } : Unfolding).reach 0
  if first.shown.isEmpty then
    return { assignments := assignments, standing := standing }
  else
    let meaning ← findMeaning commandLimit { unfolding := first }
    let rest ← expandArguments (meaning.own.any (·.assigns)) meaning.unfolding.left
    let shown := meaning.unfolding.shown ++ rest
    return {
      shown := shown
      fields := shown.drop meaning.start
      own := meaning.own
      plain := meaning.plain
      usualPath := meaning.usualPath
      special := meaning.special
      confined := !meaning.special
      assignments := assignments
      standing := standing }

/-- Works out a simple command with its redirections. -/
def prepareCall (standing : Standing) (assignments words : List Word) (redirects : List Redirect) :
    Expanding (List Frame) := do
  let call ← expandCall standing assignments words
  let openings ← openingsOf redirects
  let scope := if call.confined then [Frame.unscope] else []
  Expanding.change fun s => if call.confined then s.openScope else s
  if openings.isEmpty then return .assign call :: scope
  else
    Expanding.change fun s => { s with saved := [] :: s.saved }
    let onFailure := if call.special then [Frame.abandon] else []
    return .redirect openings [.assign { call with redirected := true }] onFailure ::
      .restore (call.own == some .exec) :: scope

/-!
## Variables and traces
-/

/-- Sets variables one after the other; gives what they were set to. -/
def assignEach (call : Call) : List Word → Expanding (List (List Char))
  | [] => pure []
  | word :: rest => do
      let text ← expandAssignment word
      let s ← Expanding.state
      let (name, value) := ScriptState.splitAssignment text
      let set :=
        if call.confined then s.makeLocal text { exported := true }
        else s.assign name value { exported := call.replaces }
      match set with
      | .error text => Expanding.fail text
      | .ok s' => Expanding.change fun _ => s'
      let more ← assignEach call rest
      return text :: more

/-- The text in front of traces, worked out, unless that fails. -/
def traceStart : Expanding (List Char) := do
  let s ← Expanding.state
  let text := (s.value? "PS4").getD []
  match readTemplate? text with
  | none => return text
  | some word => do
      Expanding.change fun s => { s with tracing := true }
      let chars ← Expanding.attempt (expandDocument word) text
      Expanding.change fun s => { s with tracing := false }
      return chars

/-- Sets the variables of a simple command, and writes down what it is if that is wanted. -/
def assignAll (call : Call) : Expanding (List Frame) := do
  let given ← assignEach call call.assignments
  let s ← Expanding.state
  if s.has .xtrace && !s.tracing then
    let start ← traceStart
    return [.perform call (some (start ++ [' '].intercalate (given ++ call.shown) ++ ['\n']))]
  else return [.perform call none]

namespace Scene

/-- Writes a trace, to what the standard error was before the redirections of the command. -/
def writeTrace (scene : Scene) (call : Call) (trace : Option (List Char)) : Scene :=
  match trace with
  | none => scene
  | some text =>
      let before := if call.redirected then scene.state.saved.head?.bind (·.lookup 2) else none
      match before with
      | some (some file) =>
          { scene with task := { scene.task with disk := (scene.task.disk.write file (bytesOf text)).2 } }
      | _ => scene.tell text

/-!
## Carrying out
-/

/-- Adds a process that has come to its end at once. -/
def forkEnded (scene : Scene) (p : Process) (status : Nat) : Nat × Scene :=
  let own := scene.task.process
  let told :=
    if own.dispositions childSignal == .handler then
      { own with pending := own.pending.filter (· != childSignal) ++ [childSignal] }
    else own
  ({ scene with task := { scene.task with process := told } }).fork
    { p with ended := some (WaitWord.ofExit status) }

/-- Whether signals, or the end of the script, have commands. -/
def hasTraps (s : ScriptState) : Bool :=
  s.traps.any fun trap => !trap.2.isEmpty

/-- Starts a program: in another process, or in the place of the script if nothing is left to do. -/
def launch (scene : Scene) (call : Call) (place : Nat) : Scene :=
  if call.standing.final && !hasTraps scene.state then
    let done := scene.become call.usualPath call.fields place
    match done.ending with
    | .breaks how => done.scene.raise how
    | _ => done.scene
  else
    let child := scene.offspring []
    let (number, forked) :=
      match becomeProgram scene.task.disk.tree child scene.state call.usualPath call.fields place with
      | .ok p => scene.fork p
      | .error reason =>
          (scene.complain (programComplaint (call.fields.headD []) reason)).forkEnded child
            (failureStatus reason)
    let (job, started) := forked.startJob [number]
    started.push [.await job false]

/-- Ends a command of the script itself with a status; what was held back is written. -/
def endOwn (scene : Scene) (speaker : Option (List Char)) (name : List Char) (status : Nat) : Scene :=
  let (written, ended) :=
    match scene.task.flush with
    | (.ok (), t) => ({ scene with task := t }, status)
    | (.error _, t) =>
        (({ scene with task := t }).complain (name ++ ": I/O error".toList), status ||| 1)
  ((written.withStatus ended).modifyState fun s => { s with speaker := speaker }).reap none

/-- Carries out a command of the script itself. -/
def performOwnCall (scene : Scene) (call : Call) (what : OwnCommand) : Scene :=
  let name := call.fields.headD []
  let speaker := scene.state.speaker
  let speaking := scene.modifyState fun s => { s with speaker := some name }
  let done := performOwn what call.standing.tested name call.fields.tail speaking
  let quiet (scene : Scene) : Scene := scene.modifyState fun s => { s with speaker := speaker }
  match done.ending with
  | .status status => done.scene.endOwn speaker name status
  | .complaint text =>
      let told := (done.scene.complain text).withStatus 2
      let flushed := quiet { told with task := told.task.flush.2 }
      if call.special then flushed.raise .failure else flushed.reap none
  | .more frames => done.scene.push (frames ++ [.finished speaker (!call.special)])
  | .breaks how => (quiet done.scene).raise how
  | .gone => done.scene

/-- Calls a function. -/
def callFunction (scene : Scene) (call : Call) (body : Option Statement) : Scene :=
  let s := scene.state
  (scene.modifyState fun s =>
      { s with
        positional := { words := call.fields.tail }
        loops := 0 }).push
    [.run body { tested := call.standing.tested }, .returned s.positional s.loops]

/-- Carries out a simple command. -/
def perform (scene : Scene) (call : Call) (trace : Option (List Char)) : Scene :=
  let traced := scene.writeTrace call trace
  match call.fields with
  | [] => (traced.withStatus traced.state.substituted).reap none
  | name :: _ =>
      match call.own with
      | some what => traced.performOwnCall call what
      | none =>
          let (found, s) := locate traced.surroundings traced.state name call.plain call.usualPath
          let there := { traced with state := s }
          match found with
          | .own what => there.performOwnCall call what
          | .function body => there.callFunction call body
          | .program place => there.launch call place
          | .missing reason =>
              (there.complain (name ++ ": ".toList ++ reasonFor reason "not found")).withStatus 127

end Scene

end JobShell.Machine.Script
