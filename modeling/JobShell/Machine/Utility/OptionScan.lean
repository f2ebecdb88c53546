/-
Module: JobShell.Machine.Utility.OptionScan
Purpose: Options and operands among the words of a program.  Options are letters after a dash, which may
  stand together, or names after two dashes, which may be cut short as long as they stay clear.
Main exports: OptionRule, OptionTable, Sighting, OptionTable.scan
-/
import JobShell.Machine.Utility.Quoting

namespace JobShell.Machine.Utility

open Text (Bytes)

/-- Whether an option takes an argument.  A letter that belongs to a run says, by an empty argument, that
the letter before it in the same word belongs to a run too. -/
inductive ArgumentRule where
  | none
  | required
  | optional
  /-- There has to be a word for it, but the next word is used up only if it has nothing but digits. -/
  | digits
  | run
deriving Repr, Inhabited, DecidableEq

/-- An option by name, and the letter or the word by which the program knows it. -/
structure OptionRule where
  name : String
  key : String
  argument : ArgumentRule := .none
deriving Repr, Inhabited, DecidableEq

/-- Something seen among the words: an option with its argument, or a mistake, which ends the scan. -/
inductive Sighting where
  | option (key : String) (argument : Option (List Char))
  | mistake (text : List Char)
deriving Repr, Inhabited, DecidableEq

/-- The options of a program.  Operands before options are passed over unless the first of them ends the
options.  A word that looks like an operand may be options after all, perhaps together with the next
word. -/
structure OptionTable where
  letters : List (Char × ArgumentRule)
  names : List OptionRule
  endsAtOperand : Bool := false
  hidden : List Char → Option (List Char) → Option (List Sighting × Bool) := fun _ _ => none

/-- What a scan gives: what has been seen, in order, and the operands. -/
abbrev Scanned := List Sighting × List Bytes

namespace OptionTable

/-- The rule of a letter. -/
def letter? (table : OptionTable) (c : Char) : Option ArgumentRule :=
  table.letters.lookup c

/-- What the letters of a word come to; `next` is the word after it, and `running` tells that the letter
before belongs to a run.  The flag that comes out tells that the next word is used up too. -/
def scanLetters (table : OptionTable) (next : Option (List Char)) (running : Bool) :
    List Char → List Sighting × Bool
  | [] => ([], false)
  | c :: rest =>
      match table.letter? c with
      | none => ([.mistake ("invalid option -- '".toList ++ [c, '\''])], false)
      | some .none =>
          let (seen, used) := scanLetters table next false rest
          (.option (String.singleton c) none :: seen, used)
      | some .run =>
          let (seen, used) := scanLetters table next true rest
          (.option (String.singleton c) (if running then some [] else none) :: seen, used)
      | some .optional =>
          ([.option (String.singleton c) (if rest.isEmpty then none else some rest)], false)
      | some .required =>
          if !rest.isEmpty then ([.option (String.singleton c) (some rest)], false)
          else
            match next with
            | some word => ([.option (String.singleton c) (some word)], true)
            | none =>
                ([.mistake ("option requires an argument -- '".toList ++ [c, '\''])], false)
      | some .digits =>
          if !rest.isEmpty then ([.option (String.singleton c) (some rest)], false)
          else
            match next with
            | some word => ([.option (String.singleton c) (some word)], word.all Char.isDigit)
            | none =>
                ([.mistake ("option requires an argument -- '".toList ++ [c, '\''])], false)

/-- The names that a text stands for: the one it spells out, or all that start with it. -/
def named (table : OptionTable) (text : List Char) : List OptionRule :=
  match table.names.find? fun rule => rule.name.toList == text with
  | some rule => [rule]
  | none => table.names.filter fun rule => text.isPrefixOf rule.name.toList

/-- What a word after two dashes comes to; the flag tells that the next word is used up too. -/
def scanName (table : OptionTable) (next : Option (List Char)) (word : List Char) :
    Sighting × Bool :=
  let text := word.takeWhile (· != '=')
  let given : Option (List Char) :=
    match word.drop text.length with
    | _ :: value => some value
    | [] => none
  let about (rule : OptionRule) (what : String) : List Char :=
    ("option '--" ++ rule.name ++ "' " ++ what).toList
  match table.named text with
  | [] => (.mistake ("unrecognized option '--".toList ++ word ++ ['\'']), false)
  | rule :: others =>
      if others.any fun other => other.key != rule.key || other.argument != rule.argument then
        let listed := (rule :: others).flatMap fun r => (" '--" ++ r.name ++ "'").toList
        (.mistake ("option '--".toList ++ word ++ "' is ambiguous; possibilities:".toList ++ listed),
          false)
      else
        match rule.argument, given, next with
        | .none, some _, _ => (.mistake (about rule "doesn't allow an argument"), false)
        | .required, none, none => (.mistake (about rule "requires an argument"), false)
        | .required, none, some value => (.option rule.key (some value), true)
        | _, _, _ => (.option rule.key given, false)

/-- Whether a list of sightings ends in a mistake. -/
def isMistaken (seen : List Sighting) : Bool :=
  match seen.getLast? with
  | some (.mistake _) => true
  | _ => false

/-- The options and operands among words; `skip` is on if the first of them has been used up. -/
def scanFrom (table : OptionTable) (skip : Bool) : List Bytes → Scanned
  | [] => ([], [])
  | word :: rest =>
      if skip then scanFrom table false rest
      else
        let next := rest.head?.map charsOf
        let go (seen : List Sighting) (used : Bool) : Scanned :=
          if isMistaken seen then (seen, [])
          else
            let (others, operands) := scanFrom table used rest
            (seen ++ others, operands)
        match charsOf word with
        | ['-', '-'] => ([], rest)
        | '-' :: '-' :: name =>
            let (seen, used) := table.scanName next name
            go [seen] used
        | '-' :: c :: letters =>
            let (seen, used) := table.scanLetters next false (c :: letters)
            go seen used
        | chars =>
            if table.endsAtOperand then ([], word :: rest)
            else
              match table.hidden chars next with
              | some (seen, used) => go seen used
              | none =>
                  let (seen, operands) := scanFrom table false rest
                  (seen, word :: operands)

/-- The options and operands among the words of a program. -/
def scan (table : OptionTable) (words : List Bytes) : Scanned :=
  table.scanFrom false words

end OptionTable

/-- Options without arguments, by their letters. -/
def plainLetters (letters : String) : List (Char × ArgumentRule) :=
  letters.toList.map fun c => (c, .none)

/-- Options with arguments, by their letters. -/
def letterWithArgument (letters : String) : List (Char × ArgumentRule) :=
  letters.toList.map fun c => (c, .required)

end JobShell.Machine.Utility
