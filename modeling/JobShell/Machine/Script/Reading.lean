/-
Module: JobShell.Machine.Script.Reading
Purpose: Reading the text of a script, character by character.  The text of an alias is put in front of
  what is still to be read, with a mark behind it, so that it is known when it has been used up.
Main exports: Token, Piece, Source, ReadState, ReadFault, Read, fetch, fetchJoined, putBack, unexpected
-/
import JobShell.Machine.Script.Syntax

namespace JobShell.Machine.Script

/-!
## Tokens
-/

/-- The words that mean something where a command can begin. -/
inductive Keyword where
  | bang
  | case
  | do
  | done
  | elif
  | else
  | esac
  | fi
  | for
  | if
  | in
  | then
  | until
  | while
  | leftBrace
  | rightBrace
deriving Repr, Inhabited, DecidableEq

namespace Keyword

/-- All keywords. -/
def all : List Keyword :=
  [bang, .case, .do, done, elif, .else, esac, fi, .for, .if, .in, .then, .until, .while, leftBrace,
    rightBrace]

/-- The spelling of a keyword. -/
def text : Keyword → String
  | bang => "!"
  | .case => "case"
  | .do => "do"
  | done => "done"
  | elif => "elif"
  | .else => "else"
  | esac => "esac"
  | fi => "fi"
  | .for => "for"
  | .if => "if"
  | .in => "in"
  | .then => "then"
  | .until => "until"
  | .while => "while"
  | leftBrace => "\x7b"
  | rightBrace => "\x7d"

/-- The keyword of a spelling. -/
def ofText? (chars : List Char) : Option Keyword :=
  all.find? fun keyword => keyword.text.toList == chars

end Keyword

/-- What a script is made of above its words. -/
inductive Token where
  | endOfText
  | newline
  | semicolon
  | ampersand
  | andAnd
  | orOr
  | bar
  | leftParen
  | rightParen
  | doubleSemicolon
  | redirection
  | word
  | keyword (keyword : Keyword)
deriving Repr, Inhabited, DecidableEq

namespace Token

/-- A token as it is named in a complaint. -/
def shown : Token → String
  | endOfText => "end of file"
  | newline => "newline"
  | semicolon => "\";\""
  | ampersand => "\"&\""
  | andAnd => "\"&&\""
  | orOr => "\"||\""
  | bar => "\"|\""
  | leftParen => "\"(\""
  | rightParen => "\")\""
  | doubleSemicolon => "\";;\""
  | redirection => "redirection"
  | word => "word"
  | keyword k => "\"" ++ k.text ++ "\""

/-- Whether a token can stand behind a list of commands that may be empty. -/
def endsList : Token → Bool
  | endOfText | rightParen | doubleSemicolon => true
  | keyword k =>
      match k with
      | .do | .done | .elif | .else | .esac | .fi | .then | .rightBrace => true
      | _ => false
  | _ => false

end Token

/-!
## What is read, and what is known while reading
-/

/-- A character still to be read, or the end of the text of an alias; `blank` tells whether that text ends
in a blank. -/
inductive Piece where
  | char (c : Char)
  | endAlias (name : List Char) (blank : Bool)
deriving Repr, Inhabited, DecidableEq

/-- Text that commands are read from.  An unfinished source may get more text once it has been used up.
`ended` holds the aliases whose text has come to its end just now. -/
structure Source where
  pieces : List Piece := []
  unfinished : Bool := false
  line : Nat := 1
  ended : List (List Char) := []
deriving Repr, Inhabited

/-- What a token may turn out to be where it stands: newlines that do not count, a keyword, an alias, or the
mark that will end a text. -/
structure Expected where
  newlines : Bool := false
  keywords : Bool := false
  aliases : Bool := false
  mark : Bool := false
deriving Repr, Inhabited, DecidableEq

/-- What may stand where a command begins. -/
def Expected.command : Expected := { newlines := true, keywords := true, aliases := true }

/-- The target that the word after a sign of redirection will name. -/
inductive RedirectTarget where
  | file (use : FileUse)
  | copy
  | document (stripsTabs : Bool)
deriving Repr, Inhabited, DecidableEq

/-- A text that has been announced and begins behind the present line: its place in the table, how it is
read, and the line that ends it. -/
structure PendingDocument where
  place : Nat
  expands : Bool
  stripsTabs : Bool
  mark : List Char
deriving Repr, Inhabited, DecidableEq

/-- The state of reading.  `held` holds the aliases whose texts enclose the present source; `quoted` and
`word` belong to the word that was read last, `descriptor` and `target` to the last redirection. -/
structure ReadState where
  source : Source
  aliases : List (List Char × List Char) := []
  held : List (List Char) := []
  expected : Expected := {}
  pushedBack : Bool := false
  token : Token := .newline
  quoted : Bool := false
  word : Word := []
  descriptor : Nat := 0
  target : RedirectTarget := .copy
  pending : List PendingDocument := []
  documents : Array Word := #[]
deriving Inhabited

/-- Why a command cannot be read: it is wrong, or its source has to be given more text first. -/
inductive ReadFault where
  | wrong (line left : Nat) (text : String)
  | unfinished
deriving Repr, Inhabited, DecidableEq

/-- Reading from a source. -/
abbrev Read (α : Type) := StateT ReadState (Except ReadFault) α

/-- How often a loop of reading may go round; no text is that long. -/
def readingLimit : Nat := 1099511627776

/-- How deep commands may stand within each other. -/
def nestingLimit : Nat := 1048576

/-- Refuses the text. -/
def refuse {α : Type} (text : String) : Read α := fun s =>
  .error (.wrong s.source.line s.source.pieces.length text)

/-- How long the text of a complaint about a token may be. -/
def complaintLimit : Nat := 63

/-- Refuses the last token; `wanted` is the one that should have stood there. -/
def unexpected {α : Type} (wanted : Option Token) : Read α := fun s =>
  let found := s.token.shown ++ " unexpected"
  let text := match wanted with
    | none => found
    | some token => found ++ " (expecting " ++ token.shown ++ ")"
  refuse (String.ofList (text.toList.take complaintLimit)) s

/-!
## Characters
-/

/-- Takes the ends of aliases off the front, with the names of those aliases; the flag tells whether one of
their texts ends in a blank. -/
def skipEnds : List Piece → List (List Char) → Bool → List Piece × List (List Char) × Bool
  | .endAlias name blank :: rest, names, any => skipEnds rest (name :: names) (any || blank)
  | rest, names, any => (rest, names, any)

/-- The next character; `none` at the end of the text.  Behind the text of an alias that ends in a blank
another alias may stand. -/
def fetch : Read (Option Char) := fun s =>
  match s.source.pieces with
  | .char c :: rest =>
      .ok (some c, { s with source := { s.source with pieces := rest, ended := [] } })
  | pieces =>
      let (left, names, blank) := skipEnds pieces [] false
      let expected := { s.expected with aliases := s.expected.aliases || blank }
      match left with
      | .char c :: rest =>
          .ok (some c,
            { s with
              source := { s.source with pieces := rest, ended := names }
              expected := expected })
      | _ =>
          if s.source.unfinished then .error .unfinished
          else
            .ok (none,
              { s with
                source := { s.source with pieces := left, ended := names }
                expected := expected })

/-- Puts a character back in front of what is to be read. -/
def putBack (c : Option Char) : Read Unit :=
  match c with
  | none => pure ()
  | some c => modify fun s =>
      { s with source := { s.source with pieces := .char c :: s.source.pieces } }

/-- Puts characters back. -/
def putBackAll (chars : List Char) : Read Unit :=
  modify fun s =>
    { s with source := { s.source with pieces := chars.map Piece.char ++ s.source.pieces } }

/-- Counts a line. -/
def countLine : Read Unit :=
  modify fun s => { s with source := { s.source with line := s.source.line + 1 } }

/-- The next character, lines being joined where a backslash stands at the end of one. -/
def fetchJoinedWithin : Nat → Read (Option Char)
  | 0 => refuse "text too long"
  | fuel + 1 => do
      let c ← fetch
      if c != some '\\' then return c
      let d ← fetch
      if d == some '\n' then
        countLine
        fetchJoinedWithin fuel
      else
        putBack d
        return c

/-- The next character, lines being joined where a backslash stands at the end of one. -/
def fetchJoined : Read (Option Char) :=
  fetchJoinedWithin readingLimit

/-!
## Aliases
-/

/-- Whether the text of an alias is being read. -/
def ReadState.isBusy (s : ReadState) (name : List Char) : Bool :=
  s.held.contains name || s.source.ended.contains name ||
    s.source.pieces.any fun piece =>
      match piece with
      | .char _ => false
      | .endAlias other _ => other == name

/-- The text of an alias that may be put in the place of its name. -/
def ReadState.aliasText? (s : ReadState) (name : List Char) : Option (List Char) :=
  (s.aliases.lookup name).filter fun _ => !s.isBusy name

/-- Whether the last character is a blank. -/
def endsInBlank (text : List Char) : Bool :=
  text.getLast?.any fun c => c == ' ' || c == '\t'

/-- Puts the text of an alias in front of what is to be read.  The aliases whose text has come to its end just
now stay in use up to the end of this one. -/
def pushAlias (name text : List Char) : Read Unit :=
  modify fun s =>
    let outer := s.source.ended.map fun other => Piece.endAlias other false
    { s with
      source :=
        { s.source with
          pieces :=
            text.map Piece.char ++ .endAlias name (endsInBlank text) :: outer ++ s.source.pieces
          ended := [] } }

/-- Reads something else first, as text by itself whose lines are counted from one; what it leaves is
dropped. -/
def readingFrom {α : Type} (text : List Char) (body : Read α) : Read α := do
  let s ← get
  let names := s.source.pieces.filterMap fun piece =>
    match piece with
    | .char _ => none
    | .endAlias name _ => some name
  set { s with
    source := { pieces := text.map Piece.char }
    held := s.source.ended ++ names ++ s.held }
  let result ← body
  modify fun t => { t with source := s.source, held := s.held }
  return result

end JobShell.Machine.Script
