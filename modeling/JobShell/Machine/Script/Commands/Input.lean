/-
Module: JobShell.Machine.Script.Commands.Input
Purpose: The command that reads a line of the standard input into variables.
Main exports: performRead, Scene.readLine
-/
import JobShell.Machine.Script.Commands.Settings
import JobShell.Machine.Script.Expansion

namespace JobShell.Machine.Script

open Text (Bytes)

/-- A line of input as far as it has been read: its characters, where those begin that can still separate
words, whether the last character was a backslash, and how many bytes have been used up. -/
structure InputLine where
  expanded : Expanded := {}
  start : Nat := 0
  escaped : Bool := false
  used : Nat := 0
deriving Inhabited

namespace InputLine

/-- Counts a byte. -/
def count (line : InputLine) : InputLine :=
  { line with used := line.used + 1 }

/-- Adds a character. -/
def put (line : InputLine) (c : Char) : InputLine :=
  { line with expanded := line.expanded.add (cellOf false c) }

/-- Ends the characters that can separate words before a place. -/
def endRegion (line : InputLine) (stop : Nat) : InputLine :=
  let regions := line.expanded.regions.push ⟨line.start, stop, false⟩
  { line with
    expanded := { line.expanded with regions := regions }
    start := line.expanded.cells.size
    escaped := false }

/-- Ends the line. -/
def finish (line : InputLine) : InputLine :=
  line.endRegion line.expanded.cells.size

end InputLine

/-- Reads a line; tells whether it has come to its end.  A backslash takes the meaning from what follows it,
unless the line is taken as it is; zero bytes are passed over. -/
def scanInput (raw : Bool) (line : InputLine) : Bytes → InputLine × Bool
  | [] => (line.finish, false)
  | b :: rest =>
      let counted := line.count
      let c := Char.ofNat b.toNat
      if b = 0 then scanInput raw counted rest
      else if line.escaped then
        let before := line.expanded.cells.size
        let put := if b = 10 then counted else counted.put c
        scanInput raw (put.endRegion before) rest
      else if b = 92 && !raw then scanInput raw { counted with escaped := true } rest
      else if b = 10 then (counted.finish, true)
      else scanInput raw (counted.put c) rest

/-- Shares fields among variables; those for which there are none become empty. -/
def shareFields : List (List Char) → List (List Char) → Scene → Except (List Char) Scene
  | [], _, scene => .ok scene
  | name :: names, fields, scene =>
      match scene.setVariable name (some (fields.headD [])) with
      | .error text => .error text
      | .ok set => shareFields names fields.tail set

/-- Gives a line to variables. -/
def Scene.takeLine (scene : Scene) (names : List (List Char)) (line : InputLine) (status : Nat) :
    Scene :=
  let cells := line.expanded.fields (separatorsOf scene.state) (some names.length)
  match shareFields names (cells.map rawText) scene with
  | .error text => scene.fail text
  | .ok set => set.withStatus status

/-- Reads a line of the standard input into variables.  Where a pipe holds no whole line yet the script has
to wait, unless a signal has come that it has to see to. -/
def Scene.readLine (scene : Scene) (raw : Bool) (names : List (List Char)) : Scene :=
  let t := scene.task
  match (t.process.descriptors.file? 0).bind fun id => (t.disk.file? id).map fun f => (id, f) with
  | none => scene.takeLine names (InputLine.finish {}) 1
  | some (id, file) =>
      let held := if file.readable then t.disk.remaining file else []
      let (line, whole) := scanInput raw {} held
      let waiting := if whole || !t.process.pending.isEmpty then t else t.awaitFeed file.node
      let taken := { waiting with disk := waiting.disk.advance id line.used }
      ({ scene with task := taken }).takeLine names line (if whole then 0 else 1)

/-- Reads a line of the standard input.  Nobody sees a prompt. -/
def performRead (scene : Scene) (arguments : List (List Char)) : Performed :=
  withLetters scene [('p', true), ('r', false)] arguments fun letters =>
    if letters.rest.isEmpty then scene.fails "arg count".toList
    else scene.goesOn [.read (letters.has 'r') letters.rest]

end JobShell.Machine.Script
