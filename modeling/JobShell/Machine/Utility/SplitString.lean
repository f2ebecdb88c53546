/-
Module: JobShell.Machine.Utility.SplitString
Purpose: A single text taken apart into words, with quotes, escapes and variables.
Main exports: SplitFault, splitString
-/

namespace JobShell.Machine.Utility

/-- Why a text cannot be taken apart. -/
inductive SplitFault where
  | cutInQuotes
  | lastBackslash
  | unknownEscape (c : Char)
  | openQuote
  | notVariable (rest : List Char)
deriving Repr, Inhabited, DecidableEq

/-- The words for what is wrong with a text. -/
def SplitFault.message : SplitFault → List Char
  | cutInQuotes => "'\\c' must not appear in double-quoted -S string".toList
  | lastBackslash => "invalid backslash at end of string in -S".toList
  | unknownEscape c => "invalid sequence '\\".toList ++ c :: "' in -S".toList
  | openQuote => "no terminating quote in -S string".toList
  | notVariable rest =>
      "only $\x7bVARNAME\x7d expansion is supported, error at: ".toList ++ rest

/-- The quotes that a place in a text is in. -/
inductive SplitQuote where
  | none
  | single
  | double
deriving Repr, DecidableEq

/-- The words so far, the last one first, and the one that is being read, if there is one, its characters
the last one first. -/
structure SplitState where
  words : List (List Char) := []
  word : Option (List Char) := none
  quote : SplitQuote := .none

namespace SplitState

/-- Adds characters to the word that is being read. -/
def add (s : SplitState) (chars : List Char) : SplitState :=
  { s with word := some (chars.reverse ++ s.word.getD []) }

/-- Ends the word that is being read. -/
def endWord (s : SplitState) : SplitState :=
  match s.word with
  | some chars => { s with words := chars.reverse :: s.words, word := none }
  | none => s

/-- The words that have been read. -/
def finish (s : SplitState) : List (List Char) :=
  s.endWord.words.reverse

end SplitState

/-- The character that an escape stands for. -/
def splitEscape? (c : Char) : Option Char :=
  match c with
  | '"' | '#' | '$' | '\'' | '\\' => some c
  | 'f' => some '\x0c'
  | 'n' => some '\n'
  | 'r' => some '\r'
  | 't' => some '\t'
  | 'v' => some '\x0b'
  | _ => none

/-- The name of the variable that stands between braces after a dollar sign. -/
def splitVariable? (text : List Char) : Option (List Char) :=
  match text with
  | '$' :: '\x7b' :: c :: rest =>
      let name := c :: rest.takeWhile fun d => d.isAlphanum || d == '_'
      if (c.isAlpha || c = '_') && (rest.drop (name.length - 1)).head? = some '\x7d' then some name
      else none
  | _ => none

/-- Takes a text apart, a few characters at a time. -/
def splitFrom (value : List Char → Option (List Char)) :
    Nat → SplitState → List Char → Except SplitFault (List (List Char))
  | 0, s, _ => .ok s.finish
  | _, s, [] => if s.quote = .none then .ok s.finish else .error .openQuote
  | fuel + 1, s, c :: rest =>
      if c = '\'' && s.quote ≠ .double then
        splitFrom value fuel
          { s.add [] with quote := if s.quote = .single then .none else .single } rest
      else if c = '"' && s.quote ≠ .single then
        splitFrom value fuel
          { s.add [] with quote := if s.quote = .double then .none else .double } rest
      else if (c = ' ' || (9 ≤ c.toNat && c.toNat ≤ 13)) && s.quote = .none then
        splitFrom value fuel s.endWord rest
      else if c = '#' && s.word.isNone then .ok s.finish
      else if c = '$' && s.quote ≠ .single then
        match splitVariable? (c :: rest) with
        | none => .error (.notVariable (c :: rest))
        | some name =>
            let s' := ((value name).map s.add).getD s
            splitFrom value fuel s' (rest.drop (name.length + 2))
      else if c = '\\' then
        match rest with
        | [] =>
            if s.quote = .single then splitFrom value fuel (s.add [c]) [] else .error .lastBackslash
        | d :: rest' =>
            if s.quote = .single && d ≠ '\\' && d ≠ '\'' then splitFrom value fuel (s.add [c]) rest
            else if d = '_' then
              splitFrom value fuel (if s.quote = .double then s.add [' '] else s.endWord) rest'
            else if d = 'c' then
              if s.quote = .double then .error .cutInQuotes else .ok s.finish
            else
              match splitEscape? d with
              | some e => splitFrom value fuel (s.add [e]) rest'
              | none => .error (.unknownEscape d)
      else splitFrom value fuel (s.add [c]) rest

/-- The words of a text; `value` gives the values of variables. -/
def splitString (value : List Char → Option (List Char)) (text : List Char) :
    Except SplitFault (List (List Char)) :=
  splitFrom value (text.length + 1) {} text

end JobShell.Machine.Utility
