/-
Module: JobShell.Emphasis
Purpose: Error messages in bold red, where the terminal can show it.
Main exports: Emphasis, Emphasis.detect, Emphasis.ofSetting, Emphasis.apply
-/
import JobShell.Environment

namespace JobShell

/-- Whether error messages are emphasised. -/
inductive Emphasis where
  | plain
  | strong
deriving Repr, Inhabited, DecidableEq

namespace Emphasis

/-- Parts of COLORTERM that promise colour. -/
def colorTerms : List String := ["truecolor", "24bit"]

/-- Values of TERM_PROGRAM that promise colour. -/
def colorPrograms : List String := ["iTerm.app", "Apple_Terminal", "Hyper"]

/-- Parts of a terminal's name, in small letters, that promise colour. -/
def colorTerminals : List String :=
  ["color", "256", "ansi", "xterm", "screen", "tmux", "alacritty", "kitty", "rxvt-unicode", "konsole",
    "vte", "terminator", "terminology", "termious"]

/-- Whether `part` occurs in `text`. -/
def occursIn (part : List Char) : List Char → Bool
  | [] => part.isEmpty
  | c :: rest => part.isPrefixOf (c :: rest) || occursIn part rest

/-- The small form of a character, as far as it can matter for a name in plain letters: apart from the
capitals themselves these are the sign for kelvin, and the capital i with a dot, which keeps its dot as a
mark of its own. -/
def smallForm (c : Char) : List Char :=
  if c = '\u212a' then ['k'] else if c = '\u0130' then ['i', '\u0307'] else [c.toLower]

/-- Whether the name of the terminal promises colour. -/
def terminalHasColor (name : String) : Bool :=
  colorTerminals.any fun part => occursIn part.toList (name.toList.flatMap smallForm)

/-- What the environment says about colour.  A wish to do without comes first, then a wish to force it,
then what is known of the terminal. -/
def detect (env : Environment) : Emphasis :=
  if (env.text? "NO_COLOR").isSome then plain
  else if env.text? "CLICOLOR" = some "0" then plain
  else if env.text? "CLICOLOR_FORCE" = some "1" then strong
  else if (env.text? "COLORTERM").any fun v => colorTerms.any (occursIn ·.toList v.toList) then strong
  else if (env.text? "TERM_PROGRAM").any (colorPrograms.contains ·) then strong
  else if (env.text? "TERM").any terminalHasColor then strong
  else plain

/-- Emphasis only where it is enabled. -/
def ofSetting (enabled : Bool) (env : Environment) : Emphasis :=
  if enabled then detect env else plain

/-- A message in the form in which it is written. -/
def apply (e : Emphasis) (message : String) : String :=
  match e with
  | plain => message
  | strong => "\x1b[31m\x1b[1m" ++ message ++ "\x1b[0m"

end Emphasis

end JobShell
