/-
Module: JobShell.Machine.Script.Commands.Performed
Purpose: What it comes to when a script carries out a command itself, and the options of such commands.
Main exports: Ending, Performed, Scene.print, Scene.ends, Scene.fails, readLetters, quotedText
-/
import JobShell.Machine.Script.Scene

namespace JobShell.Machine.Script

/-- How a command of the script itself ends: with a status, with a complaint, with more to do, or by breaking
off the work at hand.  It may also be that the process is no script any more. -/
inductive Ending where
  | status (status : Nat)
  | complaint (text : List Char)
  | more (frames : List Frame)
  | breaks (how : Break)
  | gone
deriving Inhabited

/-- A command of the script itself has been carried out. -/
structure Performed where
  scene : Scene
  ending : Ending

namespace Scene

/-- Prints text, which is held back until the command is done. -/
def print (scene : Scene) (text : List Char) : Scene :=
  { scene with task := scene.task.print (bytesOf text) }

/-- Prints a line. -/
def printLine (scene : Scene) (text : List Char) : Scene :=
  scene.print (text ++ ['\n'])

/-- The command ends with a status. -/
def ends (scene : Scene) (status : Nat) : Performed := ⟨scene, .status status⟩

/-- The command ends with a complaint. -/
def fails (scene : Scene) (text : List Char) : Performed := ⟨scene, .complaint text⟩

/-- The command ends with a complaint about a word that is no number. -/
def failsNumber (scene : Scene) (word : List Char) : Performed := scene.fails (badNumber word)

/-- The command has more to do. -/
def goesOn (scene : Scene) (frames : List Frame) : Performed := ⟨scene, .more frames⟩

end Scene

/-!
## Options
-/

/-- The letters of options in the order in which they stand, each with the word that belongs to it, and the
words behind them. -/
structure Letters where
  found : List (Char × List Char) := []
  rest : List (List Char) := []
deriving Repr, Inhabited, DecidableEq

namespace Letters

/-- Whether a letter stands there. -/
def has (letters : Letters) (c : Char) : Bool :=
  letters.found.any (·.1 == c)

/-- Adds a letter in front. -/
def add (letters : Letters) (c : Char) (word : List Char) : Letters :=
  { letters with found := (c, word) :: letters.found }

end Letters

/-- Reads the letters in words; `known` holds those that mean something, and tells of each whether a word
belongs to it.  `inside` tells that the first word is what is left of one that has been begun. -/
def readLettersFrom (known : List (Char × Bool)) :
    Nat → Bool → List (List Char) → Except (List Char) Letters
  | 0, _, words => .ok { rest := words }
  | fuel + 1, inside, words =>
      let letter (c : Char) (left : List Char) (rest : List (List Char)) :
          Except (List Char) Letters :=
        match known.lookup c with
        | none => .error ("Illegal option -".toList ++ [c])
        | some false => (readLettersFrom known fuel true (left :: rest)).map (·.add c [])
        | some true =>
            if left.isEmpty then
              match rest with
              | [] => .error ("No arg for -".toList ++ c :: " option".toList)
              | word :: more => (readLettersFrom known fuel false more).map (·.add c word)
            else (readLettersFrom known fuel false rest).map (·.add c left)
      match inside, words with
      | true, (c :: left) :: rest => letter c left rest
      | true, [] :: rest => readLettersFrom known fuel false rest
      | false, ('-' :: c :: left) :: rest =>
          if c = '-' && left.isEmpty then .ok { rest := rest } else letter c left rest
      | _, words => .ok { rest := words }

/-- Reads the letters in words. -/
def readLetters (known : List (Char × Bool)) (words : List (List Char)) : Except (List Char) Letters :=
  readLettersFrom known (words.flatten.length + 2 * words.length + 2) false words

/-- Goes on with the letters in words, or complains. -/
def withLetters (scene : Scene) (known : List (Char × Bool)) (words : List (List Char))
    (next : Letters → Performed) : Performed :=
  match readLetters known words with
  | .error text => scene.fails text
  | .ok letters => next letters

/-!
## Quotes
-/

/-- The rest of a quoted text: what is not a single quote stands between single quotes, single quotes
stand between double ones, and `double` tells which kind is open. -/
def quoteRest (double : Bool) : List Char → List Char
  | [] => if double then ['"'] else ['\'']
  | c :: rest =>
      if c = '\'' then
        if double then c :: quoteRest true rest else '\'' :: '"' :: c :: quoteRest true rest
      else if double then '"' :: '\'' :: c :: quoteRest false rest
      else c :: quoteRest false rest

/-- A text in quotes, as a script would have to write it. -/
def quotedText (text : List Char) : List Char :=
  '\'' :: quoteRest false text

end JobShell.Machine.Script
