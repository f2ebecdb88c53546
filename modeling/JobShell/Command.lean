/-
Module: JobShell.Command
Purpose: One input line as a command: its words, its redirections and its background marker.
Main exports: Direction, Command, ParseError, Command.ofWords, Command.parse, Command.render
-/
import JobShell.Text.Blank

namespace JobShell

/-- The two standard streams that a line can redirect. -/
inductive Direction where
  | input
  | output
deriving Repr, Inhabited, DecidableEq

/-- The character whose presence in a word asks for a redirection. -/
def Direction.mark : Direction → Char
  | .input => '<'
  | .output => '>'

/-- The character whose presence in a word asks for the background and ends the line. -/
def backgroundMark : Char := '&'

/-- The character that makes a line a comment when it comes first. -/
def commentMark : Char := '#'

/-- A command line that has been understood. -/
structure Command where
  argv : List String := []
  input : Option String := none
  output : Option String := none
  background : Bool := false
deriving Repr, Inhabited, DecidableEq

/-- Why a line is not a command.  Each cause carries the mark of the redirection at fault. -/
inductive ParseError where
  | missingTarget (mark : Char)
  | duplicate (mark : Char)
deriving Repr, DecidableEq

namespace ParseError

/-- The message shown for a line that is not a command. -/
def message : ParseError → String
  | missingTarget mark => "syntax error: expected a path after '" ++ mark.toString ++ "'"
  | duplicate mark => "syntax error: '" ++ mark.toString ++ "' given more than once"

end ParseError

namespace Command

/-- The name of the program, if there is any word. -/
def program (c : Command) : Option String :=
  c.argv.head?

/-- The words after the program's name. -/
def arguments (c : Command) : List String :=
  c.argv.tail

/-- Whether there is nothing to run. -/
def isEmpty (c : Command) : Bool :=
  c.argv.isEmpty

/-- The path of one redirection. -/
def path (c : Command) : Direction → Option String
  | .input => c.input
  | .output => c.output

/-- Sets the path of one redirection. -/
def setPath (c : Command) (path : String) : Direction → Command
  | .input => { c with input := some path }
  | .output => { c with output := some path }

/-- What a word asks for.  The marks are looked for anywhere in it, the input mark first, then the
output mark, then the background mark. -/
inductive Role where
  | redirect (direction : Direction)
  | background
  | argument
deriving Repr, DecidableEq

/-- The role of a word. -/
def roleOf (word : String) : Role :=
  if Direction.input.mark ∈ word.toList then .redirect .input
  else if Direction.output.mark ∈ word.toList then .redirect .output
  else if backgroundMark ∈ word.toList then .background
  else .argument

/-- Reads words from left to right on top of what has been read.  A redirecting word takes the next
word, whatever it looks like, as its path; the background mark ends the reading and what follows it is
ignored. -/
def readWords (soFar : Command) : List String → Except ParseError Command
  | [] => .ok soFar
  | word :: rest =>
      match roleOf word with
      | .argument => readWords { soFar with argv := soFar.argv ++ [word] } rest
      | .background => .ok { soFar with background := true }
      | .redirect direction =>
          match rest with
          | [] => .error (.missingTarget direction.mark)
          | target :: others =>
              if (soFar.path direction).isSome then .error (.duplicate direction.mark)
              else readWords (soFar.setPath target direction) others

/-- The command that a list of words forms. -/
def ofWords (words : List String) : Except ParseError Command :=
  readWords {} words

/-- Whether a text without leading blanks is a comment. -/
def isComment (trimmed : List Char) : Bool :=
  trimmed.head? == some commentMark

/-- The command of a line; a blank line and a comment hold none. -/
def parse (line : String) : Except ParseError (Option Command) :=
  let trimmed := Text.trimStart line.toList
  if trimmed.isEmpty || isComment trimmed then .ok none
  else (ofWords ((Text.words trimmed).map String.ofList)).map some

/-- The words that print a command: redirections first, since a word that starts with the comment mark
can only stand behind one. -/
def toWords (c : Command) : List String :=
  (match c.input with
    | some path => [Direction.input.mark.toString, path]
    | none => []) ++
  (match c.output with
    | some path => [Direction.output.mark.toString, path]
    | none => []) ++
  c.argv ++
  (if c.background then [backgroundMark.toString] else [])

/-- The line that prints a command, its words one space apart. -/
def render (c : Command) : String :=
  " ".intercalate c.toWords

end Command

end JobShell
