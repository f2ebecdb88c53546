/-
Module: JobShell.Environment
Purpose: The variables a program is started with.
Main exports: Environment, Environment.get?, Environment.text?
-/
import JobShell.Text.Utf8

namespace JobShell

/-- Variables with their values, which need not be text. -/
abbrev Environment := List (String × Text.Bytes)

namespace Environment

/-- The value of a variable. -/
def get? (env : Environment) (name : String) : Option Text.Bytes :=
  env.lookup name

/-- The value of a variable, if it is text. -/
def text? (env : Environment) (name : String) : Option String :=
  (env.get? name).bind Text.Utf8.decode

/-- Whether a variable is there, whatever its value. -/
def has (env : Environment) (name : String) : Bool :=
  (env.get? name).isSome

/-- Gives a variable a value, in the place of the old one if it had one. -/
def set (env : Environment) (name : String) (value : Text.Bytes) : Environment :=
  if env.has name then env.map fun entry => if entry.1 = name then (name, value) else entry
  else env ++ [(name, value)]

/-- Removes a variable. -/
def unset (env : Environment) (name : String) : Environment :=
  env.filter fun entry => entry.1 != name

end Environment

end JobShell
