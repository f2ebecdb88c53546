/-
Module: JobShell.Machine.Manual
Purpose: What a program says about itself when it is asked.  The words are the program's own and come with the
  machine; here is only when they are said.
Main exports: Manual, Manual.answer?, Manual.loneAnswer?
-/
import JobShell.Machine.Characters

namespace JobShell.Machine

open Text (Bytes)

/-- What a program can say about itself. -/
structure Manual where
  /-- How it is to be called, by the name under which it was called. -/
  help : Bytes → Bytes := fun _ => []
  /-- Which program it is. -/
  version : Bytes := []
deriving Inhabited

namespace Manual

/-- What a program says about itself when it is asked by the key of an option, if the key asks for that. -/
def answer? (m : Manual) (name : Bytes) (key : String) : Option Bytes :=
  if key = "help" then some (m.help name)
  else if key = "version" then some m.version
  else none

/-- What a program says about itself if it is asked by its only argument, which must be spelled out. -/
def loneAnswer? (m : Manual) (name : Bytes) (arguments : List Bytes) : Option Bytes :=
  match arguments with
  | [word] =>
      match charsOf word with
      | '-' :: '-' :: text => m.answer? name (String.ofList text)
      | _ => none
  | _ => none

end Manual

end JobShell.Machine
