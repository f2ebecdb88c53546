/-
Module: JobShell.Machine.Script.Switches
Purpose: What can be switched on and off in a script.
Main exports: Switch, Switch.ofLetter?, Switch.ofName?, switchLetters
-/
namespace JobShell.Machine.Script

/-- The switches of a script, in the order in which they are listed. -/
inductive Switch where
  | errexit
  | noglob
  | ignoreeof
  | interactive
  | monitor
  | noexec
  | stdin
  | xtrace
  | verbose
  | vi
  | emacs
  | noclobber
  | allexport
  | notify
  | nounset
  | privileged
  | nolog
  | debug
deriving Repr, Inhabited, DecidableEq

namespace Switch

/-- All switches. -/
def all : List Switch :=
  [errexit, noglob, ignoreeof, interactive, monitor, noexec, stdin, xtrace, verbose, vi, emacs,
    noclobber, allexport, notify, nounset, privileged, nolog, debug]

/-- The name of a switch. -/
def name : Switch → String
  | errexit => "errexit"
  | noglob => "noglob"
  | ignoreeof => "ignoreeof"
  | interactive => "interactive"
  | monitor => "monitor"
  | noexec => "noexec"
  | stdin => "stdin"
  | xtrace => "xtrace"
  | verbose => "verbose"
  | vi => "vi"
  | emacs => "emacs"
  | noclobber => "noclobber"
  | allexport => "allexport"
  | notify => "notify"
  | nounset => "nounset"
  | privileged => "privileged"
  | nolog => "nolog"
  | debug => "debug"

/-- The letter of a switch, if it has one. -/
def letter? : Switch → Option Char
  | errexit => some 'e'
  | noglob => some 'f'
  | ignoreeof => some 'I'
  | interactive => some 'i'
  | monitor => some 'm'
  | noexec => some 'n'
  | stdin => some 's'
  | xtrace => some 'x'
  | verbose => some 'v'
  | vi => some 'V'
  | emacs => some 'E'
  | noclobber => some 'C'
  | allexport => some 'a'
  | notify => some 'b'
  | nounset => some 'u'
  | privileged => some 'p'
  | nolog | debug => none

/-- The switch of a letter. -/
def ofLetter? (c : Char) : Option Switch :=
  all.find? fun s => s.letter? == some c

/-- The switch of a name. -/
def ofName? (name : List Char) : Option Switch :=
  all.find? fun s => s.name.toList == name

end Switch

/-- Turns a switch on or off. -/
def turn (switches : List Switch) (s : Switch) (on : Bool) : List Switch :=
  let others := switches.filter (· != s)
  if on then s :: others else others

/-- The letters of the switches that are on. -/
def switchLetters (switches : List Switch) : List Char :=
  Switch.all.reverse.filterMap fun s => if switches.contains s then s.letter? else none

end JobShell.Machine.Script
