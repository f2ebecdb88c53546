/-
Module: JobShell.Settings
Purpose: The settings the shell starts with, from its options and its environment.
Main exports: Settings, Settings.resolve, Settings.ofEnvironment, prompt
-/
import JobShell.Environment
import JobShell.Options
import JobShell.Text.Blank

namespace JobShell

/-- The prompt in front of each line, where one is shown. -/
def prompt : String := ": "

/-- Start-up settings. -/
structure Settings where
  quiet : Bool
  color : Bool
  logFilter : String
  historySize : Nat
deriving Repr, Inhabited, DecidableEq

namespace Settings

/-- The variable that holds a filter for diagnostics. -/
def filterVariable : String := "SMALLSH_LOG"

/-- The filter when nothing else is asked for. -/
def defaultFilter : String := "warn"

/-- The filter that the debug switch asks for. -/
def debugFilter : String := "smallsh=debug"

/-- How many lines the history keeps. -/
def defaultHistorySize : Nat := 1000

/-- The debug switch decides the filter; without it a filter from the environment counts if it is not
blank.  Colour needs a terminal and no request to do without. -/
def resolve (options : Options) (filter : Option String) (noColor terminal : Bool) : Settings :=
  { quiet := options.has .quiet
    color := terminal && !noColor
    logFilter :=
      if options.has .debug then debugFilter
      else
        match filter with
        | some text => if (Text.trim text.toList).isEmpty then defaultFilter else text
        | none => defaultFilter
    historySize := defaultHistorySize }

/-- The settings under an environment, `terminal` telling whether diagnostics go to one. -/
def ofEnvironment (options : Options) (env : Environment) (terminal : Bool) : Settings :=
  resolve options (env.text? filterVariable) (env.has "NO_COLOR") terminal

end Settings

end JobShell
