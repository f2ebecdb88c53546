/-
Module: JobShell.Reader
Purpose: Lines from an input that is not a terminal.  Input is taken in blocks; a line ends at a line
  feed or at the end of input, must be text, loses its line end, and then its backspaces take effect.
Main exports: Reading, LineSource, LineBuffer, LineBuffer.source
-/
import JobShell.Failure
import JobShell.Kernel
import JobShell.Text.Erasure

namespace JobShell

/-- What reading a line comes to. -/
inductive Reading where
  | line (text : String)
  | interrupted
  | ended
deriving Repr, Inhabited, DecidableEq

/-- A source of lines: one reading at a time, and a bound on the readings until it ends. -/
structure LineSource (ρ σ : Type) where
  next : ρ → σ → Option (Except ReadFailure Reading × ρ × σ)
  bound : ρ → σ → Nat

/-- Input taken from the system and not yet given out, and whether a prompt goes before each line. -/
structure LineBuffer where
  pending : Text.Bytes := []
  prompt : Option String := none
deriving Repr, Inhabited

namespace LineBuffer

variable {σ : Type}

/-- How much input is taken at a time. -/
def blockSize : Nat := 8192

/-- The line feed. -/
def lineFeed : UInt8 := 10

/-- Cuts a line, its line feed included, off what is pending. -/
def cutLine (pending : Text.Bytes) : Option (Text.Bytes × Text.Bytes) :=
  let line := pending.takeWhile (· != lineFeed)
  match pending.drop line.length with
  | [] => none
  | feed :: rest => some (line ++ [feed], rest)

/-- Takes blocks until a line is complete or the input ends. -/
def fill (k : Kernel σ) : Nat → Text.Bytes → σ →
    Option (Except Errno (Text.Bytes × Text.Bytes) × σ)
  | 0, _, _ => none
  | fuel + 1, pending, s =>
      match cutLine pending with
      | some cut => some (.ok cut, s)
      | none =>
          match k.read blockSize s with
          | none => none
          | some (.error reason, s') => some (.error reason, s')
          | some (.ok [], s') => some (.ok (pending, []), s')
          | some (.ok block, s') => fill k fuel (pending ++ block) s'

/-- Takes the line end off a line: a line feed, and a carriage return before it. -/
def dropLineEnd (line : List Char) : List Char :=
  match line.reverse with
  | '\n' :: '\r' :: rest => rest.reverse
  | '\n' :: rest => rest.reverse
  | _ => line

/-- The reading that the bytes of a line come to; no bytes mean the end of input. -/
def interpret (bytes : Text.Bytes) : Except ReadFailure Reading :=
  if bytes.isEmpty then .ok .ended
  else
    match Text.Utf8.decode bytes with
    | none => .error (.io (.custom "stream did not contain valid UTF-8"))
    | some text => .ok (.line (String.ofList (Text.erase (dropLineEnd text.toList))))

/-- Reads one line, after the prompt if there is one. -/
def next (k : Kernel σ) (buffer : LineBuffer) (s : σ) :
    Option (Except ReadFailure Reading × LineBuffer × σ) :=
  let prompted := match buffer.prompt with
    | some prompt => k.write .out prompt s
    | none => s
  match fill k (k.unread prompted + 2) buffer.pending prompted with
  | none => none
  | some (.error reason, s') => some (.error (.io (.system reason)), buffer, s')
  | some (.ok (line, rest), s') => some (interpret line, { buffer with pending := rest }, s')

/-- Reading lines through a buffer.  Every reading but the last takes at least one byte. -/
def source (k : Kernel σ) : LineSource LineBuffer σ :=
  { next := next k
    bound := fun buffer s => buffer.pending.length + k.unread s + 2 }

/-- The terminals on which lines are read plainly, with the prompt written in front of them. -/
def plainTerminals : List String := ["dumb", "cons25", "emacs"]

/-- Whether the prompt is written, given the name of the terminal. -/
def showsPrompt (terminal : Option String) : Bool :=
  terminal.any fun name => plainTerminals.contains (String.ofList (name.toList.map Char.toLower))

/-- A buffer for a terminal of a given name. -/
def forTerminal (terminal : Option String) (prompt : String) : LineBuffer :=
  { prompt := if showsPrompt terminal then some prompt else none }

end LineBuffer

end JobShell
