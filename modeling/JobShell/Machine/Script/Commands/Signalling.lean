/-
Module: JobShell.Machine.Script.Commands.Signalling
Purpose: The commands that send signals and say what happens when they arrive.
Main exports: performTrap, performKill
-/
import JobShell.Machine.Script.Commands.JobControl

namespace JobShell.Machine.Script

/-!
## Signals by name and number
-/

/-- The number of a signal that is written as a number. -/
def signalNumber? (word : List Char) : Option Nat :=
  if word.isEmpty || !word.all Char.isDigit then none
  else some (Utility.digitsValue 10 word) |>.filter (· ≤ lastSignal)

/-- The name by which a trap or a list of signals shows a number. -/
def signalLabel (signal : Nat) : String :=
  match signal with
  | 0 => "EXIT"
  | n + 1 =>
      if signal = 16 then "16"
      else
        match signalNames[n]? with
        | some name => name
        | none =>
            if signal = 34 then "RTMIN"
            else if signal = lastSignal then "RTMAX"
            else if 34 < signal && signal ≤ 49 then s!"RTMIN+{signal - 34}"
            else if 49 < signal && signal < lastSignal then s!"RTMAX-{lastSignal - signal}"
            else toString signal

/-- The number of a signal by name or number, names being known in either case; `lowest` is the lowest number
that a name may stand for. -/
def signalOfWord? (lowest : Nat) (word : List Char) : Option Nat :=
  match signalNumber? word with
  | some signal => some signal
  | none =>
      if !word.isEmpty && word.all Char.isDigit then none
      else
        let name := (String.ofList word).toUpper
        ((List.range (lastSignal + 1 - lowest)).map (· + lowest)).find? fun signal =>
          signalLabel signal == name

/-!
## Traps
-/

/-- Sets what happens when a signal arrives: the default, nothing, or a text of commands.  The end of a child
is never ignored, for it has to be noticed. -/
def setTrap (scene : Scene) (signal : Nat) (action : Option (List Char)) : Scene :=
  let noted :=
    scene.modifyState fun s =>
      let others := s.traps.filter fun trap => trap.1 != signal
      { s with
        traps := match action with
          | some text => (signal, text) :: others
          | none => others }
  let what : Disposition := match action with
    | none => .default
    | some text => if signal = childSignal || !text.isEmpty then .handler else .ignore
  if signal = 0 || scene.state.immune.contains signal then noted
  else
    let p := noted.task.process
    { noted with
      task :=
        { noted.task with
          process := { p with dispositions := p.dispositions.set signal what } } }

/-- Sets a trap for each signal, up to the first word that is none. -/
def setTraps (action : Option (List Char)) : List (List Char) → Scene → Performed
  | [], scene => scene.ends 0
  | word :: rest, scene =>
      match signalOfWord? 0 word with
      | none => (scene.tell ("trap: ".toList ++ word ++ ": bad trap\n".toList)).ends 1
      | some signal => setTraps action rest (setTrap scene signal action)

/-- Shows the traps that are set, as commands that set them. -/
def showTraps (scene : Scene) : Scene :=
  (List.range (lastSignal + 1)).foldl (fun scene signal =>
    match scene.state.traps.lookup signal with
    | none => scene
    | some text =>
        scene.printLine
          ("trap -- ".toList ++ quotedText text ++ ' ' :: (signalLabel signal).toList)) scene

/-- Shows the traps or sets them.  A single word, and a number where commands should stand, are taken for
signals whose default is wanted back. -/
def performTrap (scene : Scene) (arguments : List (List Char)) : Performed :=
  withLetters scene [] arguments fun letters =>
    match letters.rest with
    | [] => (showTraps scene).ends 0
    | [word] => setTraps none [word] scene
    | ['-'] :: rest => setTraps none rest scene
    | word :: rest =>
        if (signalNumber? word).isSome then setTraps none (word :: rest) scene
        else setTraps (some word) rest scene

/-!
## Sending signals
-/

/-- Sends a signal to the processes that words name, in order; `status` is the one so far. -/
def sendTo (signal status : Nat) : List (List Char) → Scene → Performed
  | [], scene => scene.ends status
  | word :: rest, scene =>
      let refused : Scene := scene.complain "No such process\n".toList
      if word.head? = some '%' then
        match jobOfWord scene.state.jobs word with
        | .error text => scene.fails text
        | .ok _ => sendTo signal 1 rest refused
      else
        let digits := if word.head? = some '-' then word.tail else word
        match argumentNumber? digits with
        | none => scene.failsNumber digits
        | some number =>
            if word.head? ≠ some '-' && (scene.machine.process? number).isSome then
              sendTo signal status rest { scene with signals := scene.signals ++ [(number, signal)] }
            else sendTo signal 1 rest refused

/-- How the command for signals is called. -/
def killUsage : List Char :=
  "Usage: kill [-s sigspec | -signum | -sigspec] [pid | job]... or\nkill -l [exitstatus]".toList

/-- Names the signal of a number, or of the status of a process that the signal has killed. -/
def nameSignal (scene : Scene) (word : List Char) : Performed :=
  match argumentNumber? word with
  | none => scene.failsNumber word
  | some number =>
      let signal := if 128 < number then number - 128 else number
      if 0 < signal && signal ≤ lastSignal then
        (scene.printLine (signalLabel signal).toList).ends 0
      else scene.fails ("invalid signal number or exit status: ".toList ++ word)

/-- Names all signals. -/
def nameSignals (scene : Scene) : Scene :=
  (List.range lastSignal).foldl (fun scene n => scene.printLine (signalLabel (n + 1)).toList)
    (scene.printLine ['0'])

/-- Sends signals or names them, as the letters say. -/
def killByLetters (scene : Scene) (letters : Letters) : Performed :=
  let named := (letters.found.filter (·.1 == 's')).map fun entry =>
    (signalOfWord? 1 entry.2, entry.2)
  match named.find? (·.1.isNone) with
  | some (_, word) => scene.fails ("invalid signal number or name: ".toList ++ word)
  | none =>
      let signal := named.getLast?.bind (·.1)
      if letters.has 'l' then
        if signal.isSome && !letters.rest.isEmpty then scene.fails killUsage
        else
          match letters.rest with
          | [] => (nameSignals scene).ends 0
          | word :: _ => nameSignal scene word
      else if letters.rest.isEmpty then scene.fails killUsage
      else sendTo (signal.getD 15) 0 letters.rest scene

/-- Sends signals, or names them. -/
def performKill (scene : Scene) (arguments : List (List Char)) : Performed :=
  match arguments with
  | [] => scene.fails killUsage
  | ('-' :: word) :: rest =>
      match signalOfWord? 1 word with
      | some signal => if rest.isEmpty then scene.fails killUsage else sendTo signal 0 rest scene
      | none =>
          withLetters scene [('l', false), ('s', true)] arguments fun letters =>
            killByLetters scene letters
  | _ => sendTo 15 0 arguments scene

end JobShell.Machine.Script
