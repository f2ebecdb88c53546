/-
Module: JobShell.Machine.Script.Commands
Purpose: The commands that a script carries out itself, and what it remembers about others.
Main exports: OwnCommand, OwnCommand.ofName?, CommandEntry
-/
import JobShell.Machine.Script.Grammar

namespace JobShell.Machine.Script

/-- The commands that a script carries out itself. -/
inductive OwnCommand where
  | alias
  | bg
  | break
  | cd
  | colon
  | command
  | continue
  | dot
  | echo
  | eval
  | exec
  | exit
  | export
  | false
  | fg
  | getopts
  | hash
  | jobs
  | kill
  | local
  | printf
  | pwd
  | read
  | readonly
  | return
  | set
  | shift
  | test
  | times
  | trap
  | true
  | type
  | ulimit
  | umask
  | unalias
  | unset
  | wait
deriving Repr, Inhabited, DecidableEq

namespace OwnCommand

/-- The names of the commands. -/
def names : List (String × OwnCommand) :=
  [(".", .dot), (":", .colon), ("[", .test), ("alias", .alias), ("bg", .bg), ("break", .break),
    ("cd", .cd), ("chdir", .cd), ("command", .command), ("continue", .continue), ("echo", .echo),
    ("eval", .eval), ("exec", .exec), ("exit", .exit), ("export", .export), ("false", .false),
    ("fg", .fg), ("getopts", .getopts), ("hash", .hash), ("jobs", .jobs), ("kill", .kill),
    ("local", .local), ("printf", .printf), ("pwd", .pwd), ("read", .read), ("readonly", .readonly),
    ("return", .return), ("set", .set), ("shift", .shift), ("test", .test), ("times", .times),
    ("trap", .trap), ("true", .true), ("type", .type), ("ulimit", .ulimit), ("umask", .umask),
    ("unalias", .unalias), ("unset", .unset), ("wait", .wait)]

/-- The command of a name. -/
def ofName? (name : List Char) : Option OwnCommand :=
  (names.find? fun entry => entry.1.toList == name).map (·.2)

/-- Whether the arguments of a command can give values to variables, which are then neither split nor
taken for patterns. -/
def assigns : OwnCommand → Bool
  | .alias | .export | .local | .readonly => .true
  | _ => .false

end OwnCommand

/-- What a name of a command means, as far as it has been found out: a function, or the program in one of
the directories of the search path; a stale entry has to be checked. -/
inductive CommandEntry where
  | function (body : Option Statement)
  | located (directory : Nat) (stale : Bool)
deriving Inhabited

/-- The commands that a script remembers, in the order in which it met them. -/
abbrev CommandTable := List (List Char × CommandEntry)

namespace CommandTable

/-- What a name means. -/
def find? (table : CommandTable) (name : List Char) : Option CommandEntry :=
  table.lookup name

/-- Remembers what a name means, in the place of what was known before. -/
def insert (table : CommandTable) (name : List Char) (entry : CommandEntry) : CommandTable :=
  if (table.find? name).isSome then
    table.map fun old => if old.1 = name then (name, entry) else old
  else table ++ [(name, entry)]

/-- Forgets a name. -/
def erase (table : CommandTable) (name : List Char) : CommandTable :=
  table.filter fun entry => entry.1 != name

/-- Forgets where programs are. -/
def forgetPlaces (table : CommandTable) : CommandTable :=
  table.filter fun entry => !(entry.2 matches .located _ _)

/-- Asks for the places of programs to be checked. -/
def doubtPlaces (table : CommandTable) : CommandTable :=
  table.map fun entry =>
    match entry.2 with
    | .located directory _ => (entry.1, .located directory .true)
    | _ => entry

/-- The body of a function. -/
def function? (table : CommandTable) (name : List Char) : Option (Option Statement) :=
  match table.find? name with
  | some (.function body) => some body
  | _ => none

end CommandTable

end JobShell.Machine.Script
