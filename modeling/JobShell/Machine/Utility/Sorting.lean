/-
Module: JobShell.Machine.Utility.Sorting
Purpose: The program that sorts lines, checks that they are sorted, or merges sorted lines.
Main exports: mergeTexts, firstDisorder, runSort
-/
import JobShell.Machine.Utility.Cat
import JobShell.Machine.Utility.SortMarks

namespace JobShell.Machine.Utility

open Text (Bytes)

/-!
## Lines
-/

/-- The lines of a text, from a place within a line on; what has been seen of that line comes last to
first. -/
def linesFrom (lineEnd : Char) : List Char → List Char → List (List Char)
  | seen, [] => if seen.isEmpty then [] else [seen.reverse]
  | seen, c :: rest =>
      if c = lineEnd then seen.reverse :: linesFrom lineEnd [] rest
      else linesFrom lineEnd (c :: seen) rest

/-- The lines of a text; the last one may lack its end. -/
def linesOf (lineEnd : Char) (text : List Char) : List (List Char) :=
  linesFrom lineEnd [] text

/-- Keeps the first of lines that follow each other and are equal in an order. -/
def dropRepeats (order : List Char → List Char → Ordering) : List (List Char) → List (List Char)
  | [] => []
  | line :: rest => line :: go line rest
where
  go (kept : List Char) : List (List Char) → List (List Char)
    | [] => []
    | line :: rest => if order kept line = .eq then go kept rest else line :: go line rest

/-- A text that is being merged: its place among the texts, its next line, and those after it. -/
abbrev Merged := Nat × List Char × List (List Char)

/-- Puts a text among others in the order of their next lines. -/
def insertMerged (order : List Char → List Char → Ordering) (new : Merged) :
    List Merged → List Merged
  | [] => [new]
  | old :: rest =>
      match order new.2.1 old.2.1 with
      | .lt => new :: old :: rest
      | .gt => old :: insertMerged order new rest
      | .eq =>
          if new.1 < old.1 then new :: old :: rest else old :: insertMerged order new rest

/-- Takes at most so many lines from texts that are in the order of their next lines. -/
def mergeLines (order : List Char → List Char → Ordering) : Nat → List Merged → List (List Char)
  | 0, _ => []
  | _, [] => []
  | fuel + 1, (place, line, more) :: others =>
      line ::
        mergeLines order fuel
          (match more with
          | [] => others
          | next :: rest => insertMerged order (place, next, rest) others)

/-- The lines of several texts, of which each is sorted. -/
def mergeTexts (order : List Char → List Char → Ordering) (texts : List (List (List Char))) :
    List (List Char) :=
  let started : List Merged :=
    texts.zipIdx.filterMap fun (text, place) =>
      match text with
      | [] => none
      | line :: rest => some (place, line, rest)
  mergeLines order (texts.flatten.length + 1)
    (started.foldl (fun ready text => insertMerged order text ready) [])

/-- The first line that is not where it belongs, with its number. -/
def firstDisorder (wrong : Ordering → Bool) (order : List Char → List Char → Ordering) :
    Nat → List (List Char) → Option (Nat × List Char)
  | n, a :: b :: rest =>
      if wrong (order a b) then some (n + 1, b) else firstDisorder wrong order (n + 1) (b :: rest)
  | _, _ => none

/-!
## Reading and writing
-/

/-- Reads an operand to its end. -/
def readSorted (t : Task) (name operand : Bytes) : Except Finished (List Char × Task) :=
  match openOperand t operand with
  | .error reason =>
      .error (sortRefuses t name
        (because (bytesOfText "open failed: " ++ shellQuotedIfNeeded operand) reason))
  | .ok (file, opened) =>
      match opened.readOpen file with
      | (.error reason, t') =>
          .error (sortRefuses t' name
            (because (bytesOfText "read failed: " ++ shellQuotedIfNeeded operand) reason))
      | (.ok bytes, t') => .ok (charsOf bytes, t')

/-- Reads all operands to their ends. -/
def readAllSorted (name : Bytes) : List Bytes → Task → Except Finished (List (List Char) × Task)
  | [], t => .ok ([], t)
  | operand :: rest, t =>
      match readSorted t name operand with
      | .error finished => .error finished
      | .ok (text, t') => (readAllSorted name rest t').map fun (others, t'') => (text :: others, t'')

/-- The first operand that cannot be opened, with the reason. -/
def unreadable? (t : Task) (operands : List Bytes) : Option (Bytes × Errno) :=
  operands.findSome? fun operand =>
    if operand = bytesOfText "-" then none
    else
      match t.openPath operand OpenMode.reading with
      | .ok _ => none
      | .error reason => some (operand, reason)

/-- How much the system takes before something has to be written. -/
def outputBlock : Nat := 4096

/-- Writes the sorted lines to an open file. -/
def writeSorted (t : Task) (name shown : Bytes) (file : FileId) (bytes : Bytes) : Finished :=
  let broken :=
    ((t.disk.file? file).map (·.node)).any t.isBroken && !bytes.isEmpty
  let (result, disk) :=
    if broken then (.error Errno.brokenPipe, t.disk) else t.disk.write file bytes
  match result with
  | .ok () => ({ t with disk := disk }, 0)
  | .error reason =>
      if bytes.isEmpty then (t, 0)
      else
        let what := if outputBlock < bytes.length then "write failed: " else "fflush failed: "
        let told := complain { t with disk := disk } name (because (bytesOfText what ++ shown) reason)
        sortRefuses told name (bytesOfText "write error")

/-- Checks that an operand is sorted. -/
def checkSorted (name : Bytes) (o : SortOptions) (keys : List SortKey) (letter : Char)
    (operand : Bytes) (t : Task) : Finished :=
  let read : Except Finished (List Char × Task) :=
    if operand = bytesOfText "-" && (t.process.descriptors.file? 0).isNone then
      .error (sortRefuses t name (because (bytesOfText "read failed: -") Errno.badDescriptor))
    else readSorted t name operand
  match read with
  | .error finished => finished
  | .ok (text, t') =>
      let wrong (order : Ordering) : Bool := order = .gt || (o.unique && order = .eq)
      match firstDisorder wrong (o.order keys) 1 (linesOf o.lineEnd text) with
      | none => (t', 0)
      | some (number, line) =>
          if letter = 'C' then (t', 1)
          else
            (t'.err (name ++ bytesOfText ": " ++ operand ++
              bytesOfText s!":{number}: disorder: " ++ bytesOf (line ++ [o.lineEnd])), 1)

/-- Sorts or merges operands. -/
def sortOperands (name : Bytes) (o : SortOptions) (keys : List SortKey) (operands : List Bytes)
    (output : Option FileId) (t : Task) : Finished :=
  let shown := (o.output.map shellQuotedIfNeeded).getD (bytesOfText "'standard output'")
  let isStdin (operand : Bytes) : Bool := operand = bytesOfText "-"
  if (t.process.descriptors.file? 0).isNone && operands.head?.any isStdin then
    let what := if o.merges then "read failed: -" else "stat failed: -"
    sortRefuses t name (because (bytesOfText what) Errno.badDescriptor)
  else
    let present :=
      operands.filter fun operand => !isStdin operand || (t.process.descriptors.file? 0).isSome
    match readAllSorted name present t with
    | .error finished => finished
    | .ok (texts, t') =>
        let order := o.order keys
        let parts := texts.map (linesOf o.lineEnd)
        let sorted :=
          if o.merges then mergeTexts order parts
          else parts.flatten.mergeSort fun a b => order a b != .gt
        let kept := if o.unique then dropRepeats order sorted else sorted
        let shownLine (line : List Char) : List Char :=
          if o.marks then SortKey.marked o keys line else line ++ [o.lineEnd]
        let bytes := bytesOf (kept.flatMap shownLine)
        match output with
        | some file => writeSorted { t' with disk := t'.disk.truncate file } name shown file bytes
        | none =>
            match t'.process.descriptors.file? 1 with
            | some file => writeSorted t' name shown file bytes
            | none =>
                if bytes.isEmpty then (t', 0)
                else
                  sortRefuses
                    (complain t' name (because (bytesOfText "fflush failed: " ++ shown)
                      Errno.badDescriptor)) name (bytesOfText "write error")

/-- Opens the file for the sorted lines, if one is named. -/
def openSorted (o : SortOptions) (t : Task) :
    Except (Bytes × Errno) (Option FileId × Task) :=
  match o.output with
  | none => .ok (none, t)
  | some path =>
      match t.openPath path { write := true, create := true, mode := 0o666 } with
      | .error reason => .error (path, reason)
      | .ok (file, opened) => .ok (some file, opened)

/-- The names in a text; a zero ends a name. -/
def zeroEndedNames (bytes : Bytes) : List Bytes :=
  (linesOf (Char.ofNat 0) (charsOf bytes)).map bytesOf

/-- Reads the names of the files to be sorted. -/
def readNames (name path : Bytes) (t : Task) : Reading (List Bytes × Task) :=
  let refuse (t : Task) (text : Bytes) : Reading (List Bytes × Task) := .error (sortRefuses t name text)
  match openOperand t path with
  | .error reason =>
      refuse t (because (bytesOfText "open failed: " ++ shellQuotedIfNeeded path) reason)
  | .ok (file, opened) =>
      match opened.readOpen file with
      | (.error _, t') => refuse t' (bytesOfText "cannot read file names from " ++ shellQuoted path)
      | (.ok bytes, t') =>
          let names := zeroEndedNames bytes
          let fault : Option Bytes :=
            names.zipIdx.findSome? fun (file, place) =>
              if file = bytesOfText "-" then
                some (bytesOfText "when reading file names from stdin, no file name of '-' allowed")
              else if file.isEmpty then
                some (shellQuotedIfNeeded path ++
                  bytesOfText s!":{place + 1}: invalid zero-length file name")
              else none
          if names.isEmpty then refuse t' (bytesOfText "no input from " ++ shellQuoted path)
          else
            match fault with
            | some text => refuse t' text
            | none => .ok (names, t')

/-- The operands of the sorting program, which a file may name. -/
def sortOperandsOf (name : Bytes) (o : SortOptions) (operands : List Bytes) (t : Task) :
    Reading (List Bytes × Task) :=
  match o.names, operands with
  | none, _ => .ok (operands, t)
  | some path, [] => readNames name path t
  | some _, extra :: _ =>
      let told := complain t name (bytesOfText "extra operand " ++ shellQuoted extra)
      .error
        (pointToHelp (told.err (bytesOfText "file operands cannot be combined with --files0-from\n"))
          name, sortFailure)

/-- Says what is to be known about the keys, unless they cannot be shown. -/
def explainKeys (name : Bytes) (o : SortOptions) (t : Task) : Reading Task :=
  if !o.marks then .ok t
  else
    let letter := match o.check with
      | some letter => some letter
      | none => if o.output.isSome then some 'o' else none
    match letter with
    | some c => .error (sortRefuses t name (bytesOfText s!"options '-{c} --debug' are incompatible"))
    | none => .ok (o.remarks.foldl (fun told text => complain told name (bytesOfText text)) t)

/-- Checks or sorts operands. -/
def sortFiles (name : Bytes) (o : SortOptions) (operands : List Bytes) (t : Task) : Finished :=
  let keys := o.effectiveKeys
  match o.check with
  | some letter =>
      match operands with
      | _ :: second :: _ =>
          sortRefuses t name (bytesOfText "extra operand " ++ shellQuoted second ++
            bytesOfText " not allowed with -" ++ bytesOf [letter])
      | _ =>
          if o.output.isSome then
            sortRefuses t name (bytesOfText s!"options '-{letter}o' are incompatible")
          else checkSorted name o keys letter (operands.headD (bytesOfText "-")) t
  | none =>
      let named := if operands.isEmpty then [bytesOfText "-"] else operands
      match unreadable? t named with
      | some (operand, reason) =>
          sortRefuses t name
            (because (bytesOfText "cannot read: " ++ shellQuotedIfNeeded operand) reason)
      | none =>
          match openSorted o t with
          | .error (path, reason) =>
              sortRefuses t name
                (because (bytesOfText "open failed: " ++ shellQuotedIfNeeded path) reason)
          | .ok (output, opened) => sortOperands name o keys named output opened

/-- Runs the sorting program once its options are known. -/
def sortWith (name : Bytes) (o : SortOptions) (operands : List Bytes) (t : Task) : Finished :=
  withSettings (sortOperandsOf name o operands t) fun (operands, t) =>
    match o.effectiveKeys.find? (·.isContradictory) with
    | some key => sortRefuses t name (bytesOfText s!"options '-{key.letters}' are incompatible")
    | none => withSettings (explainKeys name o t) fun t => sortFiles name o operands t

/-- Writes the lines of its operands, or of the standard input, in order. -/
def runSort (name : Bytes) (arguments : List Bytes) (t : Task) : Finished :=
  let (seen, operands) := scanWords sortTable t arguments
  match readOptions .sort name sortFailure t ({} : SortOptions) (SortOptions.take name t) seen with
  | .error finished => concluded name sortFailure finished
  | .ok o => sortWith name o operands t

end JobShell.Machine.Utility
