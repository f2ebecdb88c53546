/-
Module: JobShell.Diagnostics
Purpose: Diagnostic notes and the filter that decides which of them are written.
  A filter is a list of directives, separated by commas.  A directive names a level, or an origin, or
  both with an equals sign between them; between brackets it may name a span and fields.  Of the
  directives that concern a note the most specific one decides.
Main exports: Level, Note, Note.render, Directive, Directive.parse, Filter, Filter.parse, Filter.admits
-/
import JobShell.Diagnostics.FieldPattern
import JobShell.Text.Extent
import JobShell.Text.Quoted

namespace JobShell.Diagnostics

/-- How much a note matters.  `rank` orders levels from silence to the finest detail. -/
inductive Level where
  | off
  | error
  | warn
  | info
  | debug
  | trace
deriving Repr, Inhabited, DecidableEq

namespace Level

/-- All levels by rank. -/
def all : List Level := [off, error, warn, info, debug, trace]

/-- The number of a level. -/
def rank : Level → Nat
  | off => 0
  | error => 1
  | warn => 2
  | info => 3
  | debug => 4
  | trace => 5

/-- The name of a level, which is read without regard to case. -/
def name : Level → String
  | off => "OFF"
  | error => "ERROR"
  | warn => "WARN"
  | info => "INFO"
  | debug => "DEBUG"
  | trace => "TRACE"

/-- A number of decimal digits, with a plus sign in front of it if wanted. -/
def numberOf (text : List Char) : Option Nat :=
  let digits := match text with
    | '+' :: rest => rest
    | _ => text
  if digits.isEmpty || !digits.all Char.isDigit then none
  else some (digits.foldl (fun n d => n * 10 + (d.toNat - '0'.toNat)) 0)

/-- Reads a level, given by number or by name; an empty text means errors only. -/
def parse (text : List Char) : Option Level :=
  match (numberOf text).bind (all[·]?) with
  | some level => some level
  | none =>
      if text.isEmpty then some error
      else all.find? fun level => text.map Char.toUpper == level.name.toList

end Level

/-- A diagnostic note: how much it matters, which part of the shell it comes from, what it says. -/
structure Note where
  level : Level
  origin : String
  text : String
deriving Repr, Inhabited, DecidableEq

/-- The line of a note, levels set flush right. -/
def Note.render (note : Note) : String :=
  let name := note.level.name
  String.ofList (List.replicate (5 - name.length) ' ') ++ name ++ " " ++ note.text ++ "\n"

/-- Why a filter is not understood. -/
inductive FilterError where
  | malformed
  | level
  | pattern
  | wordPlace
deriving Repr, DecidableEq

/-- The words for a filter that is not understood. -/
def FilterError.message : FilterError → String
  | malformed => "invalid filter directive"
  | pattern => "invalid field filter: error building NFA"
  | wordPlace =>
      "invalid field filter: unsupported regex feature for DFAs: cannot build DFAs for regexes with " ++
        "Unicode word boundaries; switch to ASCII word boundaries, or heuristically enable Unicode " ++
        "word boundaries or use a different regex engine"
  | level =>
      "error parsing level filter: expected one of \"off\", \"error\", \"warn\", \"info\", \"debug\", " ++
        "\"trace\", or a number 0-5"

/-- One directive of a filter. -/
structure Directive where
  level : Level := .trace
  origin : Option String := none
  span : Option String := none
  fields : List String := []
deriving Repr, Inhabited, DecidableEq

namespace Directive

/-- Where the reading of a directive stands.  Positions are counted in bytes, in the directive without
its surrounding blanks. -/
inductive Stage where
  | start
  | levelOrOrigin (start : Nat)
  | span (start : Nat)
  | field (start : Nat)
  | fields
  | origin
  | level (start : Nat)
deriving Repr, DecidableEq

/-- The value that a field is compared with: what stands between the first equals sign and the next one. -/
def valueOf? (text : List Char) : Option (List Char) :=
  match text.dropWhile (· != '=') with
  | _ :: value => some (value.takeWhile (· != '='))
  | [] => none

/-- What is wrong with a value that a field is compared with. -/
def errorOfFault : FieldPattern.Fault → FilterError
  | .malformed => .pattern
  | .wordPlace => .wordPlace

/-- A field must have a name, and what it is compared with must be a value. -/
def fieldOf (text : List Char) : Except FilterError String :=
  if text.isEmpty then .error .malformed
  else
    match (valueOf? text).bind FieldPattern.valueFault? with
    | some fault => .error (errorOfFault fault)
    | none => .ok (String.ofList text)

/-- Advances the reading by one character at a position.  Positions refer to the directive without its
surrounding blanks, but parts are cut from the directive as it stands. -/
def advance (whole : List Char) (stage : Stage) (found : Directive) (position : Nat) (c : Char) :
    Except FilterError (Stage × Directive) :=
  match stage, c with
  | .start, '[' => .ok (.span (position + 1), found)
  | .start, _ =>
      if c = '-' || c = ':' || c = '_' || Text.Property.isAlphanumeric c then
        .ok (.levelOrOrigin position, found)
      else .error .malformed
  | .levelOrOrigin start, '=' =>
      .ok (.level (position + 1),
        { found with origin := some (String.ofList (Text.between whole start position)) })
  | .levelOrOrigin start, '[' =>
      .ok (.span (position + 1),
        { found with origin := some (String.ofList (Text.between whole start position)) })
  | .levelOrOrigin start, _ => .ok (.levelOrOrigin start, found)
  | .origin, '=' => .ok (.level (position + 1), found)
  | .span start, ']' =>
      .ok (.origin, { found with span := some (String.ofList (Text.between whole start position)) })
  | .span start, '\x7b' =>
      let name := Text.between whole start position
      .ok (.field (position + 1),
        { found with span := if name.isEmpty then none else some (String.ofList name) })
  | .span start, _ => .ok (.span start, found)
  | .field start, '\x7d' => do
      let field ← fieldOf (Text.between whole start position)
      .ok (.fields, { found with fields := found.fields ++ [field] })
  | .field start, _ => .ok (.field start, found)
  | .fields, ']' => .ok (.origin, found)
  | .level start, _ => .ok (.level start, found)
  | _, _ => .error .malformed

/-- Reads the characters of a directive from a position on. -/
def advanceAll (whole : List Char) (stage : Stage) (found : Directive) (position : Nat) :
    List Char → Except FilterError (Stage × Directive)
  | [] => .ok (stage, found)
  | c :: rest =>
      match advance whole stage found position c with
      | .ok (next, found') => advanceAll whole next found' (position + c.utf8Size) rest
      | .error e => .error e

/-- Reads a directive.  A lone word is a level if it spells one and an origin otherwise; an origin
without a level asks for everything. -/
def parse (text : List Char) : Except FilterError Directive :=
  match advanceAll text .start {} 0 (Text.trim text) with
  | .error e => .error e
  | .ok (.levelOrOrigin start, found) =>
      match Level.parse (Text.dropBytes start text) with
      | some level => .ok { found with level := level }
      | none => .ok { found with origin := some (String.ofList (Text.dropBytes start text)) }
  | .ok (.level start, found) =>
      if (Text.dropBytes start text).isEmpty then .ok { found with level := .trace }
      else
        match Level.parse (Text.dropBytes start text) with
        | some level => .ok { found with level := level }
        | none => .error .level
  | .ok (.origin, found) => .ok found
  | .ok _ => .error .malformed

/-- Whether a directive can concern notes outside any span: it names no span and compares no field with
a value. -/
def isStatic (d : Directive) : Bool :=
  d.span.isNone && d.fields.all fun field => !field.toList.contains '='

/-- Whether a directive concerns a note: the origin starts with the directive's, and the fields are
among those of a note, which has its message only. -/
def concerns (d : Directive) (note : Note) : Bool :=
  (d.origin.all fun wanted => wanted.toList.isPrefixOf note.origin.toList) &&
    d.fields.all (· == "message")

/-- The length of the origin in bytes, none being less than all. -/
def originSize (d : Directive) : Nat :=
  match d.origin with
  | some origin => origin.utf8ByteSize + 1
  | none => 0

/-- Whether `d` is more specific than `e`: a longer origin, or as long a one and more fields. -/
def outranks (d e : Directive) : Bool :=
  e.originSize < d.originSize || (d.originSize == e.originSize && e.fields.length < d.fields.length)

end Directive

/-- The directives of a filter, as given. -/
structure Filter where
  directives : List Directive
deriving Repr, Inhabited, DecidableEq

namespace Filter

/-- Splits a text at commas. -/
def splitCommas : List Char → List (List Char)
  | [] => [[]]
  | c :: rest =>
      if c = ',' then [] :: splitCommas rest
      else
        match splitCommas rest with
        | [] => [[c]]
        | part :: parts => (c :: part) :: parts

/-- Reads the directives of a list of texts. -/
def parseAll : List (List Char) → Except FilterError (List Directive)
  | [] => .ok []
  | text :: rest => do
      let directive ← Directive.parse text
      let others ← parseAll rest
      .ok (directive :: others)

/-- Reads a filter; empty parts between commas count for nothing. -/
def parse (text : String) : Except FilterError Filter :=
  match parseAll ((splitCommas text.toList).filter (!·.isEmpty)) with
  | .ok directives => .ok ⟨directives⟩
  | .error e => .error e

/-- The message for a filter that is not understood. -/
def refusal (text : String) (e : FilterError) : String :=
  "invalid filter " ++ Text.quoted text ++ ": " ++ e.message

/-- The better of two directives that concern a note; of two of the same rank the later one. -/
def prefer (best : Option Directive) (d : Directive) : Option Directive :=
  match best with
  | none => some d
  | some b => if b.outranks d then some b else some d

/-- Whether a note is written.  A filter without directives admits errors. -/
def admits (f : Filter) (note : Note) : Bool :=
  if f.directives.isEmpty then note.level.rank ≤ Level.error.rank
  else
    match (f.directives.filter fun d => d.isStatic && d.concerns note).foldl prefer none with
    | some d => note.level.rank ≤ d.level.rank
    | none => false

end Filter

end JobShell.Diagnostics
