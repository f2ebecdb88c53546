/-
Module: JobShell.Machine.Utility.Search
Purpose: The program that searches for patterns in files.
Main exports: Searching, SearchPlan, searchText, runGrep
-/
import JobShell.Machine.Utility.RichReader
import JobShell.Machine.Utility.SearchScan

namespace JobShell.Machine.Utility

open Text (Bytes)

/-- How a search goes on from file to file. -/
structure Searching where
  task : Task
  /-- Lines have been written. -/
  used : Bool := false
  /-- A line has been selected. -/
  found : Bool := false
  failed : Bool := false
  /-- There is nothing left to find out. -/
  finished : Bool := false

/-- A search: its program, what is asked for, what is searched for, and whether names are shown. -/
structure SearchPlan where
  name : Bytes
  options : SearchOptions
  matcher : LineMatcher
  named : Bool

namespace SearchPlan

/-- Whether lines are written at all. -/
def isQuiet (p : SearchPlan) : Bool :=
  p.options.counts || p.options.lists.isSome || p.options.quiet

/-- Whether the first line that is selected tells everything. -/
def endsAtFirst (p : SearchPlan) : Bool :=
  p.options.lists.isSome || p.options.quiet

/-- Notes that something went wrong, and says so if that is wanted. -/
def fail (p : SearchPlan) (s : Searching) (text : Bytes) : Searching :=
  { s with
    failed := true
    task := if p.options.silent then s.task else complain s.task p.name text }

/-- Whether the standard output goes where nobody can see it. -/
def isUnseen (t : Task) : Bool :=
  ((t.nodeBehind 1).bind t.node?).any fun n => n.content matches .device .null

/-- Whether an open file is the ordinary file that the standard output goes to. -/
def isOutput (t : Task) (file : FileId) : Bool :=
  let node := (t.disk.file? file).map (·.node)
  node.isSome && node == t.nodeBehind 1 && (node.bind t.node?).any (·.isFile)

/-- Writes the count of a file or its name, if that is what is wanted, and notes whether lines of it have been
selected. -/
def settle (p : SearchPlan) (s : Searching) (shown : Bytes) (count : Nat) : Searching :=
  let o := p.options
  let view : SearchView := { options := o, matcher := p.matcher, label := none, width := 0 }
  let label := charsOf shown
  let isWanted := (count = 0) == (o.lists == some false)
  let text :=
    if o.quiet then []
    else if o.lists.isSome then
      if isWanted then
        view.paint "35" label ++ [if o.zeroAfterName then Char.ofNat 0 else '\n']
      else []
    else if o.counts then
      (if p.named then view.named ':' label else []) ++ Nat.toDigits 10 count ++ ['\n']
    else []
  { s with
    task := s.task.print (bytesOf text)
    found := s.found || 0 < count
    finished := s.finished || (o.quiet && 0 < count) }

/-- How wide numbers are at least where tabulators are to line up: wide enough for every number that can
arise for an ordinary file, and for any number otherwise. -/
def numberWidth (o : SearchOptions) (node : Option Node) : Nat :=
  let size (n : Node) : Option Nat :=
    match n.content with
    | .file bytes => some (bytes.length + (if o.numbers then 1 else 0))
    | _ => none
  if !o.tabs then 0
  else (Nat.toDigits 10 ((node.bind size).getD largestWord.toNat)).length

/-- Searches a text, which has been read from a place of an open file on; numbers are so wide at least. -/
def searchText (p : SearchPlan) (s : Searching) (shown : Bytes) (width : Nat) (text : List Char) :
    Searching × Scan :=
  let o := p.options
  let nul := Char.ofNat 0
  let isBinary := !o.zeroLines && o.binary ≠ .asText && text.contains nul
  if isBinary && o.binary = .skip then (p.settle s shown 0, {})
  else
    let isEnd (c : Char) : Bool :=
      if o.zeroLines then c == nul else c == '\n' || (isBinary && c == nul)
    let unseen := isUnseen s.task
    let quiet := p.isQuiet || unseen || isBinary
    let atFirst := p.endsAtFirst || (unseen && !o.counts) || (isBinary && !o.counts)
    let view : SearchView :=
      { options := o, matcher := p.matcher
        label := if p.named then some (charsOf shown) else none
        width }
    let scan :=
      scanLines view quiet atFirst o.most (searchLines isEnd text) { used := s.used }
    let printed :=
      { s with
        task := scan.written.foldr (fun chunk t => t.print (bytesOf chunk)) s.task
        used := scan.used }
    let settled := p.settle printed shown scan.count
    if isBinary && !p.isQuiet && !unseen && 0 < scan.count then
      ({ settled with
          task := complain settled.task p.name (shown ++ bytesOfText ": binary file matches") }, scan)
    else (settled, scan)

/-- Leaves the position of an ordinary file behind the last line that was selected, if no more were
wanted. -/
def leavePosition (p : SearchPlan) (t : Task) (file : FileId) (start : Nat) (scan : Scan) : Task :=
  if p.options.most.any (· ≤ scan.count) &&
      (((t.disk.file? file).map (·.node)).bind t.node?).any (·.isFile) then
    { t with
      disk :=
        { t.disk with
          files := t.disk.files.modify file fun f =>
            { f with position := min f.position (start + scan.resume) } } }
  else t

/-- Searches an open file. -/
def searchOpen (p : SearchPlan) (s : Searching) (shown : Bytes) (file : FileId) (isStdin : Bool) :
    Searching :=
  let o := p.options
  let node := ((s.task.disk.file? file).map (·.node)).bind s.task.node?
  let isSpecial := node.any fun n => n.isDevice || n.isPipe
  if node.any (·.isDirectory) && o.directories = .skip then s
  else if isSpecial && o.skipsDevices && !isStdin then s
  else if !p.isQuiet && o.most ≠ some 1 && isOutput s.task file then
    p.fail s (shown ++ bytesOfText ": input file is also the output")
  else
    let start := ((s.task.disk.file? file).map (·.position)).getD 0
    match s.task.readOpen file with
    | (.error reason, t) => p.settle (p.fail { s with task := t } (because shown reason)) shown 0
    | (.ok bytes, t) =>
        let (searched, scan) := p.searchText { s with task := t } shown (numberWidth o node) (charsOf bytes)
        { searched with task := p.leavePosition searched.task file start scan }

/-- Searches the file of a path. -/
def searchPath (p : SearchPlan) (s : Searching) (shown path : Bytes) : Searching :=
  match s.task.openPath path OpenMode.reading with
  | .error reason => p.fail s (because shown reason)
  | .ok (file, t) => p.searchOpen { s with task := t } shown file false

/-- Searches the standard input. -/
def searchStdin (p : SearchPlan) (s : Searching) : Searching :=
  let shown := p.options.label.getD (bytesOfText "(standard input)")
  match s.task.process.descriptors.file? 0 with
  | none => p.fail s (because shown Errno.badDescriptor)
  | some file => p.searchOpen s shown file true

/-- Searches everything in a directory, at most so deep.  Links are passed over unless they are
followed. -/
def searchDirectory (p : SearchPlan) : Nat → Searching → Bytes → Searching
  | 0, s, _ => s
  | depth + 1, s, path =>
      match s.task.resolve (if path.isEmpty then [FileTree.dot] else path) with
      | .error reason => p.fail s (because path reason)
      | .ok id =>
          if !s.task.disk.tree.allows id .read then p.fail s (because path Errno.denied)
          else
            (s.task.disk.tree.entries id).foldl (fun s (name, child) =>
              if s.finished then s
              else
                let target := if path.isEmpty then name else underPath path name
                let isLink := (s.task.node? child).any (·.isLink)
                if isLink && !p.options.followsLinks then s
                else if s.task.isDirectoryAt target then
                  if p.options.directoryRules.any fun rule => SearchOptions.fits rule name then s
                  else searchDirectory p depth s target
                else if SearchOptions.rulesOut p.options.nameRules name then s
                else searchPath p s target target) s

/-- Searches an operand. -/
def searchOperand (p : SearchPlan) (s : Searching) (operand : Bytes) : Searching :=
  let o := p.options
  if s.finished then s
  else if operand = bytesOfText "-" then p.searchStdin s
  else if o.directories = .recurse && s.task.isDirectoryAt operand then
    if o.directoryRules.any fun rule => SearchOptions.fits rule operand then s
    else
      let named := { p with named := o.names.getD true }
      named.searchDirectory (s.task.disk.tree.nodes.size + 1) s operand
  else if SearchOptions.rulesOut o.nameRules (baseName operand) then s
  else p.searchPath s operand operand

end SearchPlan

/-- A pattern as it is read in a notation, with the operators that are out of place. -/
def readSearchPattern (language : SearchNotation) (text : List Char) :
    Except RegexFault (Regex × List Char) :=
  match language with
  | .fixed => .ok (Regex.literal text, [])
  | .basic => readRegex { extended := false } text
  | .extended | .rich => readRegex { extended := true } text

/-- Reads the patterns, one after the other. -/
def readSearchPatterns (name : Bytes) (language : SearchNotation) :
    List (List Char) → Task → Except Finished (List Regex × Task)
  | [], t => .ok ([], t)
  | text :: rest, t =>
      match readSearchPattern language text with
      | .error fault => .error (searchRefuses t name (bytesOfText fault.message))
      | .ok (regex, misplaced) =>
          let warned :=
            if language ≠ .extended then t
            else
              misplaced.foldl (fun t c =>
                let shown := if c = '\x7b' then "\x7b...\x7d" else String.singleton c
                complain t name (bytesOfText ("warning: " ++ shown ++ " at start of expression"))) t
          (readSearchPatterns name language rest warned).map fun (others, t') => (regex :: others, t')

/-- A rich pattern that has to match whole words, if that is wanted. -/
def framedRich (o : SearchOptions) (text : List Char) : List Char :=
  if o.words && !o.whole then "(?<!\\w)(?:".toList ++ text ++ ")(?!\\w)".toList else text

/-- Makes what a search looks for of its patterns. -/
def readMatcher (name : Bytes) (o : SearchOptions) (patterns : List (List Char)) (t : Task) :
    Except Finished (LineMatcher × Task) :=
  match o.language.getD .basic, patterns with
  | .rich, [] => .ok ({ patterns := [] }, t)
  | .rich, [text] =>
      match readRichPattern o.fold o.whole (framedRich o text) with
      | .error fault => .error (searchRefuses t name (bytesOfText fault.message))
      | .ok pattern => .ok ({ patterns := [], rich := some pattern }, t)
  | .rich, _ =>
      .error (searchRefuses t name (bytesOfText "the -P option only supports a single pattern"))
  | language, _ =>
      (readSearchPatterns name language patterns t).map fun (regexes, warned) =>
        ({ patterns := regexes, fold := o.fold, words := o.words, whole := o.whole }, warned)

/-- Whether it is clear from the start that nothing can be selected. -/
def isHopeless (o : SearchOptions) (patterns : List (List Char)) : Bool :=
  let matchesAll := patterns == [[]] && o.inverts && !o.whole && !o.words
  let matchesNone := patterns.isEmpty && !o.inverts
  (o.most == some 0 || matchesAll || matchesNone) && o.lists != some false

/-- Searches operands with what has been made of the patterns. -/
def searchWith (name : Bytes) (o : SearchOptions) (matcher : LineMatcher) (operands : List Bytes)
    (t : Task) : Finished :=
  let plan : SearchPlan :=
    { name := name
      options := if o.quiet then { o with lists := none } else o
      matcher := matcher
      named := o.names.getD (1 < operands.length) }
  let start : Searching := { task := t }
  let done :=
    if !operands.isEmpty then operands.foldl plan.searchOperand start
    else if o.directories = .recurse then
      ({ plan with named := o.names.getD true } : SearchPlan).searchDirectory
        (t.disk.tree.nodes.size + 1) start []
    else plan.searchStdin start
  concluded name searchFailure
    (done.task, if done.finished then 0 else if done.failed then 2 else if done.found then 0 else 1)

/-- Searches operands for lines, if there is anything to be found. -/
def searchFor (name : Bytes) (o : SearchOptions) (patterns : List (List Char)) (operands : List Bytes)
    (t : Task) : Finished :=
  if isHopeless o patterns then (t, 1)
  else
    match readMatcher name o patterns t with
    | .error finished => finished
    | .ok (matcher, warned) => searchWith name o matcher operands warned

/-- Takes in an option: one that is out of date is complained about, and one that names a file of patterns
has it read. -/
def takeSearchOption (name : Bytes) (state : Task × SearchOptions) (key : String)
    (argument : Option (List Char)) : Reading (Task × SearchOptions) :=
  let (t, o) := state
  match key with
  | "u" => .ok (complain t name (bytesOfText "warning: --unix-byte-offsets (-u) is obsolete"), o)
  | "f" => o.readPatternFile t name (argument.getD [])
  | _ => (o.take name t key argument).map fun o' => (t, o')

/-- Writes the lines in which patterns are found. -/
def runGrep (name : Bytes) (arguments : List Bytes) (t : Task) : Finished :=
  let (seen, operands) := scanWords searchTable t arguments
  let refuse (text : List Char) : Finished := searchUsage (complain t name (bytesOf text)) name
  let start : Task × SearchOptions := (t, {})
  withSettings (readOptionsOr refuse start (takeSearchOption name) seen) fun (t', o) =>
    if o.asksVersion then concluded name searchFailure (t'.print (t'.manuals .grep).version, 0)
    else if o.asksHelp then
      concluded name searchFailure (t'.print ((t'.manuals .grep).help (baseName name)), 0)
    else match o.patterns, operands with
    | some patterns, _ => searchFor name o patterns operands t'
    | none, text :: rest => searchFor name o (patternLines (charsOf text)) rest t'
    | none, [] => searchUsage t' name

end JobShell.Machine.Utility
