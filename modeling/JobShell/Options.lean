/-
Module: JobShell.Options
Purpose: The options of the command line.
Main exports: Switch, Options, Options.parse, Options.isSet, Options.usage
-/
import JobShell.Failure

namespace JobShell

/-- The switches, in the order in which the help lists them. -/
inductive Switch where
  | debug
  | help
  | quiet
  | version
deriving Repr, DecidableEq

namespace Switch

/-- All switches. -/
def all : List Switch := [debug, help, quiet, version]

/-- The name by which a switch is asked for. -/
def name : Switch → String
  | debug => "debug"
  | help => "help"
  | quiet => "quiet"
  | version => "version"

/-- The spelling with one dash. -/
def short : Switch → String
  | debug => "-d"
  | help => "-h"
  | quiet => "-q"
  | version => "-v"

/-- The spelling with two dashes. -/
def long : Switch → String
  | debug => "--debug"
  | help => "--help"
  | quiet => "--quiet"
  | version => "--version"

/-- What the help says about a switch. -/
def description : Switch → String
  | debug => "Enable debug logging on stderr"
  | help => "Print this help message"
  | quiet => "Suppress non-essential diagnostics"
  | version => "Show version information"

/-- The switch that an argument spells. -/
def ofSpelling (argument : String) : Option Switch :=
  all.find? fun switch => argument == switch.short || argument == switch.long

/-- The switch of a name. -/
def ofName (wanted : String) : Option Switch :=
  all.find? fun switch => wanted == switch.name

/-- The column at which descriptions start is fixed by the width of the long spelling. -/
def longWidth : Nat := 15

/-- The line of the help for a switch. -/
def helpLine (switch : Switch) : String :=
  let padding := String.ofList (List.replicate (longWidth - switch.long.length) ' ')
  "  " ++ switch.short ++ ", " ++ switch.long ++ padding ++ " " ++ switch.description

end Switch

/-- Which switches have been given. -/
structure Options where
  debug : Bool := false
  help : Bool := false
  quiet : Bool := false
  version : Bool := false
deriving Repr, Inhabited, DecidableEq

namespace Options

/-- Whether a switch has been given. -/
def has (o : Options) : Switch → Bool
  | .debug => o.debug
  | .help => o.help
  | .quiet => o.quiet
  | .version => o.version

/-- Turns a switch on. -/
def give (o : Options) : Switch → Options
  | .debug => { o with debug := true }
  | .help => { o with help := true }
  | .quiet => { o with quiet := true }
  | .version => { o with version := true }

/-- Whether the switch of a name has been given; an unknown name never has. -/
def isSet (o : Options) (name : String) : Bool :=
  match Switch.ofName name with
  | some switch => o.has switch
  | none => false

/-- Reads arguments until one is no spelling of a switch.  What was given before it stays given. -/
def parse (o : Options) : List String → Except Failure Unit × Options
  | [] => (.ok (), o)
  | argument :: rest =>
      match Switch.ofSpelling argument with
      | some switch => (o.give switch).parse rest
      | none => (.error (.options ("unknown option " ++ argument)), o)

/-- The help text: a usage line and a line for each switch. -/
def usage : String :=
  "Usage: smallsh [OPTIONS]\n\nOptions:\n" ++
    String.join (Switch.all.map fun switch => switch.helpLine ++ "\n")

end Options

end JobShell
