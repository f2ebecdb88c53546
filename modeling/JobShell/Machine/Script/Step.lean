/-
Module: JobShell.Machine.Script.Step
Purpose: One step of a script: the frame on top of its stack is taken and acted upon.
Main exports: stepScript, isWaiting, isRoused
-/
import JobShell.Machine.Script.Running

namespace JobShell.Machine.Script

open Text (Bytes)

/-!
## Loops
-/

/-- What a loop makes of commands being skipped at the end of a turn: whether it is left, and what is still
to be skipped. -/
def endTurn : Skip → Bool × Skip
  | .nothing => (false, .nothing)
  | .loops count again => if 1 < count then (true, .loops (count - 1) again) else (!again, .nothing)
  | .function explicit => (true, .function explicit)

/-- Whether commands are being skipped. -/
def ScriptState.skips (s : ScriptState) : Bool :=
  s.skip != .nothing

namespace Scene

/-- Leaves a loop with a status. -/
def endLoop (scene : Scene) (status : Nat) : Scene :=
  scene.modifyState fun s => { s with loops := s.loops - 1, status := status }

/-- Goes on with a loop, or leaves it, where a turn has ended. -/
def afterTurn (scene : Scene) (next : Scene → Scene) : Scene :=
  let status := scene.state.status
  match endTurn scene.state.skip with
  | (leaves, skip) =>
      let there := scene.modifyState fun s => { s with skip := skip }
      if leaves then there.endLoop status else next there

/-- Acts on the condition of a loop. -/
def testLoop (scene : Scene) (untilTrue tested : Bool) (condition body : Option Statement)
    (last : Nat) : Scene :=
  let status := scene.state.status
  let again (scene : Scene) : Scene :=
    scene.push [.run condition { tested := true }, .test untilTrue tested condition body last]
  if scene.state.skips then
    match endTurn scene.state.skip with
    | (leaves, skip) =>
        let there := scene.modifyState fun s => { s with skip := skip }
        if !leaves then again there
        else there.endLoop (if skip = .function true then status else last)
  else if (status == 0) == untilTrue then scene.endLoop last
  else scene.push [.run body { tested := tested }, .turn untilTrue tested condition body]

/-- Goes on with a loop over words. -/
def stepEach (scene : Scene) (name : List Char) (words : List (List Char)) (body : Option Statement)
    (tested ran : Bool) : Scene :=
  let next (scene : Scene) : Scene :=
    match words with
    | [] => scene.endLoop (if ran then scene.state.status else 0)
    | word :: rest =>
        match scene.state.assign name (some word) {} with
        | .error text => scene.fail text
        | .ok s =>
            ({ scene with state := s }).push
              [.run body { tested := tested }, .each name rest body tested true]
  if ran then scene.afterTurn next else next scene

/-!
## Processes
-/

/-- A process that the script does not wait for: the keyboard does not reach it, and it reads nothing. -/
def detach (t : Task) (p : Process) (reads : Bool) : Process × Task :=
  let quiet :=
    { p with
      dispositions := (p.dispositions.set interrupt .ignore).set 3 .ignore
      activity := match p.activity with
        | .script s stack => .script { s with immune := interrupt :: 3 :: s.immune } stack
        | other => other }
  if reads then (quiet, t)
  else
    match t.openPath (bytesOfText "/dev/null") OpenMode.reading with
    | .ok (file, t') => ({ quiet with descriptors := quiet.descriptors.assign 0 (some file) }, t')
    | .error _ => (quiet, t)

/-- The frames of a process that carries out redirections and then a command. -/
def redirectedRun (openings : List Opening) (body : Option Statement) (standing : Standing) :
    List Frame :=
  [.redirect openings [.run body standing] [.abandon]]

/-- Starts a command that the script does not wait for. -/
def startDetached (scene : Scene) (openings : List Opening) (body : Option Statement) : Scene :=
  let (child, task) :=
    detach scene.task (scene.offspring (redirectedRun openings body { final := true })) false
  let (number, forked) := ({ scene with task := task }).fork child
  let (_, started) := forked.startJob [number]
  started.modifyState fun s => { s with status := 0, lastDetached := some number }

/-- Runs a command in a process of its own, or in the place of the script if nothing is left to do. -/
def startSubshell (scene : Scene) (openings : List Opening) (body : Option Statement)
    (standing : Standing) : Scene :=
  let frames := redirectedRun openings body { standing with final := true }
  if standing.final && !hasTraps scene.state then
    ({ scene with state := { scene.state with saved := [] } }).push frames
  else
    let (number, forked) := scene.fork (scene.offspring frames)
    let (job, started) := forked.startJob [number]
    started.push [.await job false]

/-- Remembers where the program of a command is that another process will run. -/
def lookAhead (scene : Scene) (command : Option Statement) : Scene :=
  match command with
  | some (.simple _ _ (word :: _) _) =>
      match (plainWord? word).filter isName with
      | some name =>
          { scene with state := (locate scene.surroundings scene.state name false false).2 }
      | none => scene
  | _ => scene

/-- Starts the commands of a pipeline, the first of which reads from an open file, if any; gives their
numbers. -/
def startPiped (background tested : Bool) (input : Option FileId) (isFirst : Bool) :
    List (Option Statement) → Scene → List Nat × Scene
  | [], scene => ([], scene)
  | command :: rest, scene =>
      let ahead := scene.lookAhead command
      let (output, next, task) :=
        if rest.isEmpty then (none, none, ahead.task)
        else
          match makePipe ahead.task with
          | (input, output, task) => (some output, some input, task)
      let there := { ahead with task := task }
      let child := there.offspring [.run command { tested := tested, final := true }]
      let fed := match input with
        | some file => child.descriptors.assign 0 (some file)
        | none => child.descriptors
      let joined := match output with
        | some file => fed.assign 1 (some file)
        | none => fed
      let (ready, task) :=
        if background then detach there.task { child with descriptors := joined } !isFirst
        else ({ child with descriptors := joined }, there.task)
      let (number, forked) := ({ there with task := task }).fork ready
      let (numbers, started) := startPiped background tested next false rest forked
      (number :: numbers, started)

/-- Runs a pipeline. -/
def startPipeline (scene : Scene) (background : Bool) (commands : List (Option Statement))
    (standing : Standing) : Scene :=
  let (numbers, forked) := startPiped background standing.tested none true commands scene
  let (job, started) := forked.startJob numbers
  if background then
    started.modifyState fun s => { s with status := 0, lastDetached := numbers.getLast? }
  else started.push [.await job false]

/-- Waits for a job. -/
def awaitJob (scene : Scene) (place : Nat) (substitution : Bool) : Scene :=
  let known := scene.reap (some place)
  match known.state.jobs.find? place with
  | none => known
  | some job =>
      if job.isRunning then known.push [.await place substitution]
      else
        let status := statusOfWord job.word
        known.modifyState fun s =>
          let forgotten := { s with jobs := s.jobs.forget place }
          if substitution then { forgotten with substituted := status }
          else { forgotten with status := status }

/-- Gathers what a command writes, up to the end of it. -/
def gatherOutput (scene : Scene) (descriptor place : Nat) (chunks : List (List Char))
    (resume : Surroundings → ScriptState → List Char → Progress (List Frame)) : Scene :=
  let t := scene.task
  match t.process.descriptors.file? descriptor with
  | none => scene.push [.await place true, .resume chunks.reverse.flatten resume]
  | some id =>
      match t.disk.readAll id with
      | (.ok (b :: rest), disk) =>
          ({ scene with task := { t with disk := disk } }).push
            [.gather descriptor place (charsOf (b :: rest) :: chunks) resume]
      | _ =>
          let closed := t.setDescriptors (t.process.descriptors.close descriptor)
          ({ scene with task := closed }).push
            [.await place true, .resume chunks.reverse.flatten resume]

/-!
## Texts
-/

/-- How much is read at a time. -/
def blockSize : Nat := 8192

/-- Reads more of a text.  An empty pipe has to be waited for. -/
def readBlock (t : Task) (feed : Feed) : Bytes × Task :=
  let block (id : FileId) : Bytes × Task :=
    match t.disk.read id blockSize with
    | (.ok [], disk) =>
        let waiting := ((t.disk.file? id).map (·.node)).elim t t.awaitFeed
        ([], { waiting with disk := disk })
    | (.ok bytes, disk) => (bytes, { t with disk := disk })
    | (.error _, _) => ([], t)
  match feed with
  | .nothing => ([], t)
  | .file id => block id
  | .input => ((t.process.descriptors.file? 0).map block).getD ([], t)

/-- Adds text behind a source; nothing means that it has come to its end. -/
def Source.extend (source : Source) (bytes : Bytes) : Source :=
  if bytes.isEmpty then { source with unfinished := false }
  else
    let pieces := (charsOf (bytes.filter (· != 0))).map Piece.char
    { source with pieces := source.pieces ++ pieces }

/-- The text that has been read from a source, `after` being what is left of it. -/
def readText (before after : Source) : List Char :=
  (before.pieces.take (before.pieces.length - after.pieces.length)).filterMap fun piece =>
    match piece with
    | .char c => some c
    | .endAlias _ _ => none

/-- What is left of a text behind the line in which so many of its pieces end. -/
def restOfLines (pieces : List Piece) (count : Nat) : List Piece :=
  match (pieces.take count).getLast? with
  | none | some (.char '\n') => pieces.drop count
  | some _ => ((pieces.drop count).dropWhile (· != .char '\n')).drop 1

/-- Shows what has been read from a file, if that is wanted. -/
def echoText (scene : Scene) (isFile : Bool) (before after : Source) : Scene :=
  if isFile && scene.state.has .verbose then scene.tell (readText before after) else scene

/-- Ends the commands of a text. -/
def endSource (scene : Scene) (isFile : Bool) (status : Nat) : Scene :=
  let ended := scene.withStatus status
  match ended.state.skip with
  | .function _ => if isFile then ended.modifyState fun s => { s with skip := .nothing } else ended
  | _ => ended

/-- Goes on with the commands of a text. -/
def stepSource (scene : Scene) (text : Source) (feed : Feed) (isFile : Bool) (standing : Standing)
    (status : Option Nat) : Scene :=
  let reached := status.getD scene.state.status
  if scene.state.skips then scene.endSource isFile reached
  else
    match readNextCommand scene.state.aliases scene.state.documents text with
    | .unfinished =>
        let (bytes, task) := readBlock scene.task feed
        ({ scene with task := task }).push
          [.source (Source.extend text bytes) feed isFile standing (some reached)]
    | .finished after => (scene.echoText isFile text after).endSource isFile reached
    | .wrong line left said =>
        let after := { text with pieces := restOfLines text.pieces (text.pieces.length - left) }
        (scene.echoText isFile text after).misread line said
    | .command statement last after documents =>
        let there :=
          (scene.echoText isFile text after).modifyState fun s => { s with documents := documents }
        match statement with
        | none => there.push [.source after feed isFile standing (some reached)]
        | some command =>
            there.push
              [.run (some command) { standing with final := standing.final && last },
                .source after feed isFile standing none]

/-!
## Commands
-/

/-- The first arm with a pattern that describes a text. -/
def findArm (text : List Char) :
    List (List Word × Option Statement) → Expanding (Option (Option Statement))
  | [] => pure none
  | (patterns, body) :: rest => do
      let rec describes : List Word → Expanding Bool
        | [] => pure false
        | word :: more => do
            let pattern ← expandPattern word
            if pattern.accepts text then return true else describes more
      if ← describes patterns then return some body else findArm text rest

/-- Notes the line of a command. -/
def atLine (scene : Scene) (line : Nat) : Scene :=
  scene.modifyState fun s => { s with line := line }

/-- Runs a command. -/
def runStatement (scene : Scene) (statement : Statement) (standing : Standing) : Scene :=
  let tested : Standing := { tested := true }
  let passed : Standing := { tested := standing.tested }
  let plain := scene.push [.after false standing]
  let checked := scene.push [.after true standing]
  match statement with
  | .simple line assignments words redirects =>
      ((checked.atLine line).modifyState fun s => { s with substituted := 0 }).work
        (prepareCall standing assignments words redirects)
  | .pipeline background commands => checked.startPipeline background commands standing
  | .redirected line body redirects =>
      (plain.atLine line).work do
        let openings ← openingsOf redirects
        Expanding.change fun s => { s with saved := [] :: s.saved }
        return [.redirect openings [.run body passed] [.after true standing], .restore false]
  | .detached line body redirects =>
      (checked.atLine line).work do
        let openings ← openingsOf redirects
        return [.detached openings body]
  | .subshell line body redirects =>
      (checked.atLine line).work do
        let openings ← openingsOf redirects
        return [.subshell openings body standing]
  | .sequence first second =>
      plain.push [.run first passed, .second .always second standing]
  | .both first second => plain.push [.run first tested, .second .both second standing]
  | .either first second => plain.push [.run first tested, .second .either second standing]
  | .negated body => plain.push [.run body tested, .negate]
  | .choice condition yes no => plain.push [.run condition tested, .decide yes no standing]
  | .loop untilTrue condition body =>
      (plain.modifyState fun s => { s with loops := s.loops + 1 }).push
        [.run condition tested, .test untilTrue standing.tested condition body 0]
  | .each line name words body =>
      (plain.atLine line).work do
        let fields ← expandWords words
        Expanding.change fun s => { s with loops := s.loops + 1 }
        return [.each name fields body standing.tested false]
  | .select line subject arms =>
      (plain.atLine line).work do
        let text ← expandText subject
        match ← findArm text arms with
        | some (some body) => return [.run (some body) standing]
        | _ => do
            Expanding.change fun s => { s with status := 0 }
            return []
  | .define _ name body =>
      plain.modifyState fun s =>
        { s with
          commands := s.commands.insert name (.function body)
          status := 0 }

/-!
## Signals
-/

/-- The signal that the script has to see to next: of those that have arrived, the one with the lowest
number. -/
def nextSignal? (scene : Scene) : Option Nat :=
  if scene.state.skips then none else scene.task.process.pending.min?

/-- Begins the commands for a signal. -/
def handleSignal (scene : Scene) (signal : Nat) : Scene :=
  let p := scene.task.process
  let quiet :=
    { scene with
      task := { scene.task with process := { p with pending := p.pending.filter (· != signal) } } }
  match scene.state.traps.lookup signal with
  | none => quiet
  | some text =>
      let s := scene.state
      let status := s.trapStatus.getD s.status
      (quiet.modifyState fun s => { s with trapStatus := some status }).push
        [.source (textSource text) .nothing false {} (some 0), .trapped status s.trapStatus]

/-- Ends the commands for a signal. -/
def endTrap (scene : Scene) (status : Nat) (before : Option Nat) : Scene :=
  let kept := if scene.state.skip = .function true then scene.state.status else status
  scene.modifyState fun s => { s with status := kept, trapStatus := before }

/-!
## Steps
-/

/-- Acts behind a command. -/
def stepAfter (scene : Scene) (checks : Bool) (standing : Standing) : Scene :=
  let fails := checks && !standing.tested && scene.state.status != 0 && scene.state.has .errexit
  if fails || standing.final then scene.raise .done else scene

/-- Acts on a frame that has been taken off the stack. -/
def stepFrame (scene : Scene) (frame : Frame) : Scene :=
  match frame with
  | .run none standing => scene.stepAfter false standing
  | .run (some statement) standing =>
      if scene.state.has .noexec then scene.stepAfter false standing
      else scene.runStatement statement standing
  | .after checks standing => scene.stepAfter checks standing
  | .second join statement standing =>
      if scene.state.skips || !join.goesOn scene.state.status then scene
      else scene.push [.run statement standing]
  | .negate =>
      if scene.state.skips then scene
      else scene.withStatus (if scene.state.status = 0 then 1 else 0)
  | .decide yes no standing =>
      if scene.state.skips then scene
      else if scene.state.status = 0 then scene.push [.run yes standing]
      else if no.isSome then scene.push [.run no standing]
      else scene.withStatus 0
  | .test untilTrue tested condition body last => scene.testLoop untilTrue tested condition body last
  | .turn untilTrue tested condition body =>
      let status := scene.state.status
      scene.afterTurn fun scene =>
        scene.push
          [.run condition { tested := true }, .test untilTrue tested condition body status]
  | .each name words body tested ran => scene.stepEach name words body tested ran
  | .gather descriptor place chunks resume => scene.gatherOutput descriptor place chunks resume
  | .resume output resume => scene.carryOn (resume scene.surroundings scene.state output)
  | .redirect openings success failure => redirect success failure openings scene
  | .supply descriptor text => scene.supply descriptor text
  | .detached openings body => scene.startDetached openings body
  | .subshell openings body standing => scene.startSubshell openings body standing
  | .assign call => scene.work (assignAll call)
  | .perform call trace => scene.perform call trace
  | .restore keeps =>
      if keeps then scene.modifyState fun s => { s with saved := s.saved.tail } else scene.putBack
  | .unscope => scene.modifyState (·.closeScope)
  | .returned positional loops =>
      scene.modifyState fun s =>
        { s with
          positional := positional
          loops := loops
          skip := match s.skip with
            | .function _ => .nothing
            | skip => skip }
  | .finished speaker _ => (scene.modifyState fun s => { s with speaker := speaker }).reap none
  | .abandon => scene.raise .failure
  | .source text feed isFile standing status => scene.stepSource text feed isFile standing status
  | .trapped status before => scene.endTrap status before
  | .leaving status => scene.quit status
  | .await place substitution => scene.awaitJob place substitution
  | .attendAll => attendAll scene
  | .attend place words status => attend place words status scene
  | .read raw names => scene.readLine raw names

/-- Whether a frame is a place where signals are seen to. -/
def seesSignals : Frame → Bool
  | .run (some _) _ | .after _ _ => true
  | _ => false

/-- One step. -/
def step (scene : Scene) : Scene :=
  match scene.stack with
  | [] => scene.leave .done
  | frame :: rest =>
      match if seesSignals frame then scene.nextSignal? else none with
      | some signal => scene.handleSignal signal
      | none => ({ scene with stack := rest }).stepFrame frame

end Scene

/-!
## Waiting
-/

/-- Whether a script waits for something that has not come yet. -/
def isWaiting (m : Machine) (p : Process) (s : ScriptState) (stack : List Frame) : Bool :=
  let noneEnded := (m.children p.number).all (·.isAlive)
  match stack with
  | .await place _ :: _ => noneEnded && (s.jobs.find? place).any (·.isRunning)
  | .attendAll :: _ => noneEnded && p.pending.isEmpty && s.jobs.any (·.isRunning)
  | .attend (some place) _ _ :: _ =>
      noneEnded && p.pending.isEmpty && (s.jobs.find? place).any (·.isRunning)
  | .gather descriptor _ _ _ :: _ =>
      match (p.descriptors.file? descriptor).bind m.disk.file? with
      | some file => m.pipeLength file.node == 0 && m.isHeld (·.writable) file.node
      | none => false
  | _ => false

/-- Whether a signal has come for which a script stops reading. -/
def isRoused (p : Process) : Bool :=
  match p.activity with
  | .script _ (.read _ _ :: _) => !p.pending.isEmpty
  | _ => false

/-- One step of a script. -/
def stepScript (m : Machine) (p : Process) (s : ScriptState) (stack : List Frame) : Machine :=
  (Scene.step { around := m, task := m.taskOf p, state := s, stack := stack }).settle m p.number

end JobShell.Machine.Script
