/-
Module: JobShell.Machine.Utility.SearchOptions
Purpose: What the searching program is asked to do, and the words in which it is asked.
Main exports: SearchOptions, SearchOptions.take, searchTable
-/
import JobShell.Machine.Script.Pattern
import JobShell.Machine.Utility.Numeral
import JobShell.Machine.Utility.Paths

namespace JobShell.Machine.Utility

open Text (Bytes)

/-- The notations for what is searched for: plain text, or one of the notations for patterns. -/
inductive SearchNotation where
  | basic
  | extended
  | fixed
  | rich
deriving Repr, Inhabited, DecidableEq

/-- What is done with a file that is no text: say only that it matches, treat it as text, or pass over
it. -/
inductive BinaryRule where
  | report
  | asText
  | skip
deriving Repr, Inhabited, DecidableEq

/-- What is done with a directory: try to read it, pass over it, or search what is in it. -/
inductive DirectoryRule where
  | read
  | skip
  | recurse
deriving Repr, Inhabited, DecidableEq

/-- A rule about the files to be searched: a pattern for names, and whether such files are the only ones
wanted. -/
structure NameRule where
  pattern : List Char
  wanted : Bool
deriving Repr, Inhabited, DecidableEq

/-- What the searching program is asked to do. -/
structure SearchOptions where
  /-- The notation, once it has been asked for. -/
  language : Option SearchNotation := none
  /-- The lines that are searched for, as far as options give them. -/
  patterns : Option (List (List Char)) := none
  fold : Bool := false
  inverts : Bool := false
  words : Bool := false
  whole : Bool := false
  counts : Bool := false
  /-- Only names are written: of files with matches if on, of files without if off. -/
  lists : Option Bool := none
  /-- How many lines may be selected; without a limit if there is none. -/
  most : Option Nat := none
  only : Bool := false
  quiet : Bool := false
  silent : Bool := false
  offsets : Bool := false
  numbers : Bool := false
  /-- Whether names are written in front of lines, if that is asked for. -/
  names : Option Bool := none
  zeroAfterName : Bool := false
  zeroLines : Bool := false
  label : Option Bytes := none
  before : Option Nat := none
  after : Option Nat := none
  context : Option Nat := none
  binary : BinaryRule := .report
  directories : DirectoryRule := .read
  followsLinks : Bool := false
  skipsDevices : Bool := false
  nameRules : List NameRule := []
  directoryRules : List (List Char) := []
  paints : Bool := false
  tabs : Bool := false
  separator : Option Bytes := some (bytesOfText "--")
  /-- The program is asked how it is called. -/
  asksHelp : Bool := false
  /-- The program is asked which one it is. -/
  asksVersion : Bool := false
deriving Repr, Inhabited, DecidableEq

/-- The status of the searching program when something goes wrong. -/
def searchFailure : Nat := 2

/-- Says how the searching program is called. -/
def searchUsage (t : Task) (name : Bytes) : Finished :=
  (t.err (bytesOfText "Usage: " ++ baseName name ++
    bytesOfText " [OPTION]... PATTERNS [FILE]...\nTry '" ++ baseName name ++
    bytesOfText " --help' for more information.\n"), searchFailure)

/-- Ends the searching program with a complaint. -/
def searchRefuses (t : Task) (name text : Bytes) : Finished :=
  (complain t name text, searchFailure)

/-- The lines of a text that gives patterns; the end of its last line counts for nothing. -/
def patternLines (text : List Char) : List (List Char) :=
  text.splitOn '\n'

/-- The lines of a file that gives patterns. -/
def patternFileLines (text : List Char) : List (List Char) :=
  if text.isEmpty then []
  else patternLines (if text.getLast? = some '\n' then text.dropLast else text)

namespace SearchOptions

/-- Adds lines to what is searched for. -/
def seek (o : SearchOptions) (added : List (List Char)) : SearchOptions :=
  { o with patterns := some (o.patterns.getD [] ++ added) }

/-- Asks for a notation.  It cannot be changed afterwards. -/
def setLanguage (o : SearchOptions) (t : Task) (name : Bytes) (language : SearchNotation) :
    Reading SearchOptions :=
  if o.language.any (· ≠ language) then
    .error (searchRefuses t name (bytesOfText "conflicting matchers specified"))
  else .ok { o with language := some language }

/-- Reads how many lines of context are wanted. -/
def readContext (t : Task) (name : Bytes) (word : List Char) : Except Finished Nat :=
  match readInteger false word with
  | some ⟨false, n, []⟩ => .ok n
  | some ⟨true, 0, []⟩ => .ok 0
  | _ =>
      .error (searchRefuses t name (bytesOf word ++ bytesOfText ": invalid context length argument"))

/-- Reads how many lines may be selected; less than none means as many as there are. -/
def readMost (t : Task) (name : Bytes) (word : List Char) : Except Finished (Option Nat) :=
  match readInteger false word with
  | some ⟨negative, n, []⟩ => .ok (if negative && n ≠ 0 then none else some n)
  | _ => .error (searchRefuses t name (bytesOfText "invalid max count"))

/-- Reads a file that gives patterns, or the standard input for a lone dash. -/
def readPatternFile (o : SearchOptions) (t : Task) (name : Bytes) (word : List Char) :
    Reading (Task × SearchOptions) :=
  let path := bytesOf word
  match if word = ['-'] then t.readAll 0 else t.readPath path with
  | (.ok bytes, t') => .ok (t', o.seek (patternFileLines (charsOf bytes)))
  | (.error reason, t') => .error (searchRefuses t' name (because path reason))

/-- Adds a digit to the lines of context; `running` tells that a digit stands just before it. -/
def takeDigit (o : SearchOptions) (running : Bool) (digit : Char) : SearchOptions :=
  let value := digit.toNat - '0'.toNat
  { o with context := some (if running then o.context.getD 0 * 10 + value else value) }

/-- What is to be done with directories. -/
def takeDirectories (o : SearchOptions) (t : Task) (name : Bytes) (word : List Char) :
    Reading SearchOptions :=
  let refuse (told : Task) : Finished := ((searchUsage told name).1, 1)
  (chooseValueOr refuse t name word "--directories" [["read"], ["recurse"], ["skip"]]).map fun value =>
    { o with
      directories := if value = "read" then .read else if value = "skip" then .skip else .recurse }

/-- When matches are to be painted.  A word that does not tell asks for help. -/
def takeColor (o : SearchOptions) (argument : Option (List Char)) : SearchOptions :=
  let word := String.ofList ((argument.getD ['a', 'u', 't', 'o']).map Char.toLower)
  if ["always", "yes", "force"].contains word then { o with paints := true }
  else if ["never", "no", "none", "auto", "tty", "if-tty"].contains word then { o with paints := false }
  else { o with asksHelp := true }

/-- Takes in one of the options that need nothing else. -/
def takePlain (o : SearchOptions) (key : String) : SearchOptions :=
  match key with
  | "H" => { o with names := some true }
  | "I" => { o with binary := .skip }
  | "T" => { o with tabs := true }
  | "a" => { o with binary := .asText }
  | "b" => { o with offsets := true }
  | "c" => { o with counts := true }
  | "h" => { o with names := some false }
  | "i" | "y" => { o with fold := true }
  | "unfold" => { o with fold := false }
  | "L" => { o with lists := some false }
  | "l" => { o with lists := some true }
  | "n" => { o with numbers := true }
  | "o" => { o with only := true }
  | "q" => { o with quiet := true }
  | "R" => { o with directories := .recurse, followsLinks := true }
  | "r" => { o with directories := .recurse, followsLinks := false }
  | "s" => { o with silent := true }
  | "v" => { o with inverts := true }
  | "w" => { o with words := true }
  | "x" => { o with whole := true }
  | "Z" => { o with zeroAfterName := true }
  | "z" => { o with zeroLines := true }
  | "noseparator" => { o with separator := none }
  | "V" => { o with asksVersion := true }
  | "help" => { o with asksHelp := true }
  | _ => o

/-- Takes in an option. -/
def take (name : Bytes) (t : Task) (o : SearchOptions) (key : String)
    (argument : Option (List Char)) : Reading SearchOptions :=
  let word := argument.getD []
  match key with
  | "E" => o.setLanguage t name .extended
  | "F" => o.setLanguage t name .fixed
  | "G" => o.setLanguage t name .basic
  | "P" => o.setLanguage t name .rich
  | "X" =>
      match String.ofList word with
      | "grep" => o.setLanguage t name .basic
      | "egrep" | "awk" | "gawk" | "posixawk" => o.setLanguage t name .extended
      | "fgrep" => o.setLanguage t name .fixed
      | "perl" => o.setLanguage t name .rich
      | _ => .error (searchRefuses t name (bytesOfText "invalid matcher " ++ bytesOf word))
  | "A" => (readContext t name word).map fun n => { o with after := some n }
  | "B" => (readContext t name word).map fun n => { o with before := some n }
  | "C" => (readContext t name word).map fun n => { o with context := some n }
  | "m" => (readMost t name word).map fun most => { o with most := most }
  | "e" => .ok (o.seek (patternLines word))
  | "D" =>
      match String.ofList word with
      | "read" => .ok { o with skipsDevices := false }
      | "skip" => .ok { o with skipsDevices := true }
      | _ => .error (searchRefuses t name (bytesOfText "unknown devices method"))
  | "d" => o.takeDirectories t name word
  | "label" => .ok { o with label := some (bytesOf word) }
  | "separator" => .ok { o with separator := some (bytesOf word) }
  | "color" => .ok (o.takeColor argument)
  | "include" => .ok { o with nameRules := o.nameRules ++ [⟨word, true⟩] }
  | "exclude" => .ok { o with nameRules := o.nameRules ++ [⟨word, false⟩] }
  | "excludedir" => .ok { o with directoryRules := o.directoryRules ++ [word] }
  | "binary" =>
      match String.ofList word with
      | "binary" => .ok { o with binary := .report }
      | "text" => .ok { o with binary := .asText }
      | "without-match" => .ok { o with binary := .skip }
      | _ => .error (searchRefuses t name (bytesOfText "unknown binary-files type"))
  | _ =>
      match key.toList with
      | [c] => if c.isDigit then .ok (o.takeDigit argument.isSome c) else .ok (o.takePlain key)
      | _ => .ok (o.takePlain key)

/-- How many lines are shown before a selected one, if context is wanted. -/
def leading (o : SearchOptions) : Option Nat :=
  o.before.orElse fun _ => o.context

/-- How many lines are shown after a selected one, if context is wanted. -/
def trailing (o : SearchOptions) : Option Nat :=
  o.after.orElse fun _ => o.context

/-- A pattern in which sets are turned around by an exclamation mark, where a caret does that too. -/
def withExclamations : List Char → List Char
  | '\\' :: c :: rest => '\\' :: c :: withExclamations rest
  | '[' :: '^' :: rest => '[' :: '!' :: withExclamations rest
  | c :: rest => c :: withExclamations rest
  | [] => []

/-- Whether a name fits a pattern for names. -/
def fits (pattern : List Char) (name : Bytes) : Bool :=
  (Script.Pattern.read (withExclamations pattern)).accepts (charsOf name)

/-- Whether rules about names rule out a file.  The last rule that fits decides; if none does, the first
rule tells whether only certain files are wanted. -/
def rulesOut (rules : List NameRule) (name : Bytes) : Bool :=
  match rules.reverse.find? fun rule => fits rule.pattern name with
  | some rule => !rule.wanted
  | none => rules.head?.any (·.wanted)

end SearchOptions

/-- The options of the searching program. -/
def searchTable : OptionTable :=
  { letters :=
      ("0123456789".toList.map fun c => (c, .run)) ++ plainLetters "EFGHILPTUVabchilnoqRrsuvwxyZz" ++
        letterWithArgument "ABCDXdefm"
    names :=
      [⟨"basic-regexp", "G", .none⟩, ⟨"extended-regexp", "E", .none⟩,
        ⟨"fixed-regexp", "F", .none⟩, ⟨"fixed-strings", "F", .none⟩,
        ⟨"perl-regexp", "P", .none⟩, ⟨"after-context", "A", .required⟩,
        ⟨"before-context", "B", .required⟩, ⟨"binary-files", "binary", .required⟩,
        ⟨"binary", "U", .none⟩, ⟨"byte-offset", "b", .none⟩, ⟨"context", "C", .required⟩,
        ⟨"color", "color", .optional⟩, ⟨"colour", "color", .optional⟩, ⟨"count", "c", .none⟩,
        ⟨"devices", "D", .required⟩, ⟨"directories", "d", .required⟩,
        ⟨"exclude", "exclude", .required⟩, ⟨"exclude-from", "excludefrom", .required⟩,
        ⟨"exclude-dir", "excludedir", .required⟩, ⟨"file", "f", .required⟩,
        ⟨"files-with-matches", "l", .none⟩, ⟨"files-without-match", "L", .none⟩,
        ⟨"group-separator", "separator", .required⟩, ⟨"help", "help", .none⟩,
        ⟨"include", "include", .required⟩, ⟨"ignore-case", "i", .none⟩,
        ⟨"no-ignore-case", "unfold", .none⟩, ⟨"initial-tab", "T", .none⟩,
        ⟨"label", "label", .required⟩, ⟨"line-buffered", "buffered", .none⟩,
        ⟨"line-number", "n", .none⟩, ⟨"line-regexp", "x", .none⟩, ⟨"max-count", "m", .required⟩,
        ⟨"no-filename", "h", .none⟩, ⟨"no-group-separator", "noseparator", .none⟩,
        ⟨"no-messages", "s", .none⟩, ⟨"null", "Z", .none⟩, ⟨"null-data", "z", .none⟩,
        ⟨"only-matching", "o", .none⟩, ⟨"quiet", "q", .none⟩, ⟨"recursive", "r", .none⟩,
        ⟨"dereference-recursive", "R", .none⟩, ⟨"regexp", "e", .required⟩,
        ⟨"invert-match", "v", .none⟩, ⟨"silent", "q", .none⟩, ⟨"text", "a", .none⟩,
        ⟨"unix-byte-offsets", "u", .none⟩, ⟨"version", "V", .none⟩,
        ⟨"with-filename", "H", .none⟩, ⟨"word-regexp", "w", .none⟩] }

end JobShell.Machine.Utility
