/-
Module: JobShell.Machine.Utility.Cat
Purpose: The program that copies its operands to the standard output, as they are or made visible.
Main exports: CatOptions, CatOptions.render, runCat
-/
import JobShell.Machine.Utility.Report

namespace JobShell.Machine.Utility

open Text (Bytes)

/-- What the copying program is asked to do with what it copies. -/
structure CatOptions where
  numbers : Bool := false
  nonblank : Bool := false
  ends : Bool := false
  squeezes : Bool := false
  tabs : Bool := false
  visible : Bool := false
deriving Repr, Inhabited, DecidableEq

/-- Where the copying program stands between two characters: how many lines have been numbered, whether a
line is about to start, and how many blank lines have gone before. -/
structure CatPlace where
  lines : Nat := 0
  atStart : Bool := true
  blanks : Nat := 0
deriving Repr, Inhabited, DecidableEq

namespace CatOptions

/-- Whether anything is to be done at all. -/
def isPlain (o : CatOptions) : Bool :=
  !(o.numbers || o.ends || o.squeezes || o.tabs || o.visible)

/-- The number in front of a line. -/
def lineNumber (n : Nat) : List Char :=
  let digits := Nat.toDigits 10 n
  List.replicate (6 - digits.length) ' ' ++ digits ++ ['\t']

/-- A character below a hundred and twenty-eight, made visible. -/
def visibleLow (n : Nat) : List Char :=
  if n < 32 then ['^', Char.ofNat (n + 64)]
  else if n = 127 then ['^', '?']
  else [Char.ofNat n]

/-- A character within a line, as it is shown. -/
def shown (o : CatOptions) (c : Char) : List Char :=
  if c = '\t' then (if o.tabs then ['^', 'I'] else [c])
  else if !o.visible then [c]
  else if c.toNat < 128 then visibleLow c.toNat
  else 'M' :: '-' :: visibleLow (c.toNat - 128)

/-- Shows a text from a place on: what is written, the last of it first, and the place after it. -/
def renderFrom (o : CatOptions) : CatPlace → List Char → List (List Char) →
    List (List Char) × CatPlace
  | place, [], written => (written, place)
  | place, c :: rest, written =>
      let counts (blank : Bool) : Bool := place.atStart && o.numbers && !(blank && o.nonblank)
      let front (blank : Bool) : List Char :=
        if counts blank then lineNumber (place.lines + 1) else []
      let lines (blank : Bool) : Nat := if counts blank then place.lines + 1 else place.lines
      if c = '\n' then
        if place.atStart && o.squeezes && 0 < place.blanks then renderFrom o place rest written
        else
          renderFrom o
            { lines := lines place.atStart
              atStart := true
              blanks := if place.atStart then place.blanks + 1 else 0 } rest
            ((front place.atStart ++ (if o.ends then ['$', '\n'] else ['\n'])) :: written)
      else
        let text :=
          if c = '\r' && o.ends && rest.head? = some '\n' then ['^', 'M'] else o.shown c
        renderFrom o { lines := lines false, atStart := false, blanks := 0 } rest
          ((front false ++ text) :: written)

/-- A text as it is shown from a place on, and the place after it. -/
def render (o : CatOptions) (place : CatPlace) (text : List Char) : List Char × CatPlace :=
  let (written, after) := o.renderFrom place text []
  (written.reverse.flatten, after)

/-- Takes in an option. -/
def take (o : CatOptions) (key : String) : CatOptions :=
  match key with
  | "A" => { o with visible := true, ends := true, tabs := true }
  | "b" => { o with numbers := true, nonblank := true }
  | "e" => { o with visible := true, ends := true }
  | "E" => { o with ends := true }
  | "n" => { o with numbers := true }
  | "s" => { o with squeezes := true }
  | "t" => { o with visible := true, tabs := true }
  | "T" => { o with tabs := true }
  | "v" => { o with visible := true }
  | _ => o

end CatOptions

/-- The options of the copying program. -/
def catTable : OptionTable :=
  { letters := plainLetters "AbeEnstTuv"
    names :=
      [⟨"number-nonblank", "b", .none⟩, ⟨"number", "n", .none⟩, ⟨"squeeze-blank", "s", .none⟩,
        ⟨"show-nonprinting", "v", .none⟩, ⟨"show-ends", "E", .none⟩, ⟨"show-tabs", "T", .none⟩,
        ⟨"show-all", "A", .none⟩, ⟨"help", "help", .none⟩, ⟨"version", "version", .none⟩] }

/-- Opens an operand to read it: a dash means the standard input. -/
def openOperand (t : Task) (operand : Bytes) : Except Errno (FileId × Task) :=
  if operand = bytesOfText "-" then
    match t.process.descriptors.file? 0 with
    | some file => .ok (file, t)
    | none => .error Errno.badDescriptor
  else t.openPath operand OpenMode.reading

/-- Whether a file is the one that the standard output goes to, with something left in it to read. -/
def readsOwnOutput (t : Task) (file : FileId) : Bool :=
  match t.disk.file? file, (t.process.descriptors.file? 1).bind t.disk.file? with
  | some input, some output =>
      let size := (t.disk.remaining { input with position := 0 }).length
      input.node == output.node && input.position < size &&
        (t.disk.tree.node? input.node).any (·.isFile)
  | _, _ => false

/-- Where the copying program is between two operands. -/
structure Copying where
  task : Task
  place : CatPlace := {}
  status : Nat := 0
  /-- The output cannot be written, so nothing else is done. -/
  broken : Bool := false

/-- Complains about an operand and goes on. -/
def Copying.fail (c : Copying) (name text : Bytes) : Copying :=
  { c with task := complain c.task name text, status := 1 }

/-- Copies one operand to the standard output. -/
def Copying.copy (name : Bytes) (o : CatOptions) (c : Copying) (operand : Bytes) : Copying :=
  if c.broken then c
  else
    match openOperand c.task operand with
    | .error reason => c.fail name (because (shellQuotedIfNeeded operand) reason)
    | .ok (file, opened) =>
        let c := { c with task := opened }
        if readsOwnOutput opened file then
          c.fail name (shellQuotedIfNeeded operand ++ bytesOfText ": input file is output file")
        else
          match opened.readOpen file with
          | (.error reason, t) =>
              ({ c with task := t } : Copying).fail name
                (because (shellQuotedIfNeeded operand) reason)
          | (.ok bytes, t) =>
              let (text, place) :=
                if o.isPlain then (bytes, c.place)
                else
                  let (shown, place) := o.render c.place (charsOf bytes)
                  (bytesOf shown, place)
              match t.write 1 text with
              | (.ok (), t') => { c with task := t', place := place }
              | (.error reason, t') =>
                  { ({ c with task := t' } : Copying).fail name
                      (because (bytesOfText "write error") reason) with broken := true }

/-- Copies operands to the standard output.  At the end the standard input is closed if it was read. -/
def copyOperands (name : Bytes) (o : CatOptions) (operands : List Bytes) (t : Task) : Finished :=
  if (t.process.descriptors.file? 1).isNone then
    (complain t name (because (bytesOfText "standard output") Errno.badDescriptor), 1)
  else
    let done := operands.foldl (Copying.copy name o) { task := t }
    if !done.broken && operands.contains (bytesOfText "-") &&
        (t.process.descriptors.file? 0).isNone then
      (complain done.task name (because (bytesOfText "closing standard input") Errno.badDescriptor),
        1)
    else (done.task, done.status)

/-- Copies its operands, or the standard input, to the standard output. -/
def runCat (name : Bytes) (arguments : List Bytes) (t : Task) : Finished :=
  let (seen, operands) := scanWords catTable t arguments
  let settings := readOptions .cat name 1 t ({} : CatOptions) (fun o key _ => .ok (o.take key)) seen
  concluded name 1 <| withSettings settings fun o =>
    copyOperands name o (if operands.isEmpty then [bytesOfText "-"] else operands) t

end JobShell.Machine.Utility
