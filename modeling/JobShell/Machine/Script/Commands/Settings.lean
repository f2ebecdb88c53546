/-
Module: JobShell.Machine.Script.Commands.Settings
Purpose: The commands for switches, positional parameters and the options among them.
Main exports: performSet, performGetopts
-/
import JobShell.Machine.Script.Commands.Performed

namespace JobShell.Machine.Script

/-!
## Switches
-/

/-- Turns a switch on or off.  There is no terminal from which jobs could be controlled. -/
def turnSwitch (scene : Scene) (switch : Switch) (on : Bool) : Scene :=
  let wanted := turn scene.state.switches switch on
  let turned :=
    scene.modifyState fun s =>
      { s with
        switches :=
          if switch = .vi && on then turn wanted .emacs false
          else if switch = .emacs && on then turn wanted .vi false
          else wanted }
  if switch = .monitor && on then
    (turned.modifyState fun s => { s with switches := turn s.switches .monitor false }).complain
      "can't access tty; job control turned off".toList
  else turned

/-- Shows the switches: what is on and off, or the commands that would turn them so. -/
def showSwitches (scene : Scene) (asCommands : Bool) : Scene :=
  let line (switch : Switch) : List Char :=
    let on := scene.state.has switch
    let name := switch.name.toList
    if asCommands then (if on then "set -o ".toList else "set +o ".toList) ++ name
    else name ++ List.replicate (16 - name.length) ' ' ++ (if on then "on" else "off").toList
  let front := if asCommands then scene else scene.printLine "Current option settings".toList
  Switch.all.foldl (fun scene switch => scene.printLine (line switch)) front

/-- Turns the switch of a name on or off; without a name it shows all of them. -/
def turnNamed (scene : Scene) (on : Bool) (name : Option (List Char)) : Except (List Char) Scene :=
  match name with
  | none => .ok (showSwitches scene !on)
  | some name =>
      match Switch.ofName? name with
      | some switch =>
          if switch = .monitor then .ok (turnSwitch scene switch on)
          else .ok (scene.modifyState fun s => { s with switches := turn s.switches switch on })
      | none => .error ("Illegal option -o ".toList ++ name)

/-- Turns the switches of letters on or off; a letter for names takes the next word. -/
def turnLetters (on : Bool) :
    List Char → List (List Char) → Scene → Scene × Except (List Char) (List (List Char))
  | [], rest, scene => (scene, .ok rest)
  | 'o' :: letters, rest, scene =>
      match turnNamed scene on rest.head? with
      | .ok turned => turnLetters on letters rest.tail turned
      | .error text => (scene, .error text)
  | c :: letters, rest, scene =>
      match Switch.ofLetter? c with
      | some switch => turnLetters on letters rest (turnSwitch scene switch on)
      | none => (scene, .error ("Illegal option -".toList ++ [c]))

/-- Takes new positional parameters. -/
def takePositional (scene : Scene) (words : List (List Char)) : Scene :=
  scene.modifyState fun s => { s with positional := { words := words } }

/-- Goes through the words of the command for settings, in at most so many steps. -/
def setFrom : Nat → List (List Char) → Scene → Performed
  | 0, _, scene => scene.ends 0
  | fuel + 1, words, scene =>
      let last (rest : List (List Char)) (scene : Scene) : Performed :=
        (if rest.isEmpty then scene else takePositional scene rest).ends 0
      let turning (on : Bool) (letters : List Char) (rest : List (List Char)) : Performed :=
        match turnLetters on letters rest scene with
        | (turned, .ok left) => setFrom fuel left turned
        | (turned, .error text) => turned.fails text
      match words with
      | ['-'] :: rest =>
          last rest <| scene.modifyState fun s =>
            { s with switches := turn (turn s.switches .xtrace false) .verbose false }
      | ['-', '-'] :: rest => (takePositional scene rest).ends 0
      | ('-' :: letters) :: rest => turning true letters rest
      | ('+' :: letters) :: rest => turning false letters rest
      | rest => last rest scene

/-- The line that shows a variable. -/
def variableLine (front : List Char) (v : Variable) : List Char :=
  front ++ v.name ++
    match v.value with
    | some value => '=' :: quotedText value
    | none => []

/-- Shows the variables of a kind, each behind a text. -/
def showVariables (scene : Scene) (front : List Char) (kind : Variable → Bool) : Scene :=
  (scene.state.bindings.sorted kind).foldl
    (fun scene v => scene.printLine (variableLine front v)) scene

/-- Changes the switches and the positional parameters, or shows the variables. -/
def performSet (scene : Scene) (arguments : List (List Char)) : Performed :=
  if arguments.isEmpty then (showVariables scene [] fun v => v.value.isSome).ends 0
  else setFrom (arguments.length + 1) arguments scene

/-!
## Options among the positional parameters
-/

/-- What a step through options has found: the letter that the variable gets, the value that comes with it,
if any, what is said, how far the step has come, and whether there are no options any more. -/
structure OptionStep where
  letter : Char := '?'
  value : Option (List Char) := none
  clears : Bool := false
  said : List Char := []
  next : Nat
  offset : Option Nat := none
  isOver : Bool := false

/-- Looks a letter up among those that are known; tells whether a word belongs to it. -/
def findOption (c : Char) : List Char → Option Bool
  | [] => none
  | known :: ':' :: more => if known = c then some true else findOption c more
  | known :: rest => if known = c then some false else findOption c rest

/-- The rest of the word that options are being taken from, if it is not used up. -/
def restOfWord? (words : List (List Char)) (place : Positional) : Option (List Char) :=
  match place.next, place.letter with
  | n + 2, some offset =>
      ((words[n]?).map (·.drop offset)).filter fun rest => !rest.isEmpty
  | _, _ => none

/-- Takes an option from the rest of a word; `next` is the number of the word behind it. -/
def optionFrom (known : List Char) (words : List (List Char)) (c : Char) (left : List Char)
    (next : Nat) : OptionStep :=
  let silent := known.head? == some ':'
  let offset := (words[next - 2]?).map fun word => word.length - left.length
  match findOption c known with
  | none =>
      if silent then { value := some [c], next := next, offset := offset }
      else
        { clears := true
          said := "Illegal option -".toList ++ [c, '\n']
          next := next
          offset := offset }
  | some false => { letter := c, value := some [], next := next, offset := offset }
  | some true =>
      if !left.isEmpty then { letter := c, value := some left, next := next }
      else
        match words[next - 1]? with
        | some word => { letter := c, value := some word, next := next + 1 }
        | none =>
            if silent then { letter := ':', value := some [c], next := next, offset := none }
            else
              { clears := true
                said := "No arg for -".toList ++ c :: " option\n".toList
                next := next }

/-- A step through the options in words. -/
def stepOptions (known : List Char) (words : List (List Char)) (place : Positional) : OptionStep :=
  match restOfWord? words place with
  | some (c :: left) => optionFrom known words c left place.next
  | _ =>
      match words[place.next - 1]? with
      | some ['-', '-'] => { next := place.next + 1, isOver := true }
      | some ('-' :: c :: left) => optionFrom known words c left (place.next + 1)
      | _ => { next := place.next, isOver := true }

/-- The name in front of an equals sign. -/
def nameOf (word : List Char) : List Char :=
  word.takeWhile (· != '=')

/-- Sets a variable whose name a word gives. -/
def Scene.setVariable (scene : Scene) (word : List Char) (value : Option (List Char)) :
    Except (List Char) Scene :=
  (scene.state.assign (nameOf word) value {}).map fun s => { scene with state := s }

/-- Takes the next option from the positional parameters, or from words. -/
def performGetopts (scene : Scene) (arguments : List (List Char)) : Performed :=
  match arguments with
  | known :: name :: given =>
      let words := if given.isEmpty then scene.state.positional.words else given
      let place := scene.state.positional
      let start := if words.length + 1 < place.next then { place with next := 1, letter := none } else place
      let step := stepOptions known words start
      let argument := "OPTARG".toList
      let noted : Except (List Char) Scene := do
        let told := scene.tell step.said
        let valued ←
          match step.value with
          | some value => told.setVariable argument (some value)
          | none => if step.clears then told.setVariable argument none else .ok told
        let counted := valued.modifyState fun s =>
          { s with
            bindings :=
              match s.bindings.set "OPTIND".toList (some (toString step.next).toList) {} with
              | .ok bindings => bindings
              | .error _ => s.bindings }
        counted.setVariable name (some [step.letter])
      match noted with
      | .error text =>
          ({ scene with
              state := { scene.state with positional := { place with next := largestArgument } } }).fails
            text
      | .ok set =>
          (set.modifyState fun s =>
            { s with
              positional := { s.positional with next := step.next, letter := step.offset } }).ends
            (if step.isOver then 1 else 0)
  | _ => scene.fails "Usage: getopts optstring var [arg...]".toList

end JobShell.Machine.Script
