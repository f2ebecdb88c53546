/-
Module: JobShell.Machine.Program
Purpose: The programs that the machine has.
Main exports: Program, Program.all, Program.name
-/
namespace JobShell.Machine

/-- The programs of the machine. -/
inductive Program where
  | sh
  | cat
  | echo
  | sort
  | succeed
  | fail
  | printf
  | expr
  | test
  | bracket
  | env
  | pwd
  | sleep
  | rm
  | mv
  | touch
  | mkdir
  | rmdir
  | grep
deriving Repr, Inhabited, DecidableEq

namespace Program

/-- All programs. -/
def all : List Program :=
  [sh, cat, echo, sort, succeed, fail, printf, expr, test, bracket, env, pwd, sleep, rm, mv, touch,
    mkdir, rmdir, grep]

/-- The file name of a program. -/
def name : Program → String
  | sh => "sh"
  | cat => "cat"
  | echo => "echo"
  | sort => "sort"
  | succeed => "true"
  | fail => "false"
  | printf => "printf"
  | expr => "expr"
  | test => "test"
  | bracket => "["
  | env => "env"
  | pwd => "pwd"
  | sleep => "sleep"
  | rm => "rm"
  | mv => "mv"
  | touch => "touch"
  | mkdir => "mkdir"
  | rmdir => "rmdir"
  | grep => "grep"

end Program

end JobShell.Machine
