/-
Module: JobShell.Machine.Utility.Condition
Purpose: Conditions: questions about files, texts and numbers, joined by negation, "and", "or" and
  parentheses, as the test program reads them.  Few words are read by their number, more by a grammar.
Main exports: FileFacts, ConditionFault, evaluateCondition
-/
import JobShell.Machine.Utility.Numeral
import JobShell.Machine.Utility.Quoting

namespace JobShell.Machine.Utility

/-- What can be asked about files by their paths: a question that a letter stands for, the moment of the
last change, and the node. -/
structure FileFacts where
  ask : Char → List Char → Bool
  changed : List Char → Option Int
  node : List Char → Option Nat

namespace FileFacts

/-- Whether the first file was changed after the second. -/
def isNewer (f : FileFacts) (left right : List Char) : Bool :=
  match f.changed left, f.changed right with
  | some l, some r => r < l
  | _, _ => false

/-- Whether two paths lead to one file. -/
def isSame (f : FileFacts) (left right : List Char) : Bool :=
  match f.node left, f.node right with
  | some l, some r => l == r
  | _, _ => false

end FileFacts

/-- Why a condition has no answer. -/
inductive ConditionFault where
  | notInteger (word : List Char)
  | extra (word : List Char)
  | missingAfter (word : List Char)
  | unaryExpected (word : List Char)
  | binaryExpected (word : List Char)
  | unknownBinary (word : List Char)
  | closingExpected (found : Option (List Char))
  | noLength (operator : List Char)
deriving Repr, DecidableEq

/-- The message for a condition without an answer. -/
def ConditionFault.message : ConditionFault → List Char
  | notInteger word => "invalid integer ".toList ++ quotedChars word
  | extra word => "extra argument ".toList ++ quotedChars word
  | missingAfter word => "missing argument after ".toList ++ quotedChars word
  | unaryExpected word => quotedChars word ++ ": unary operator expected".toList
  | binaryExpected word => quotedChars word ++ ": binary operator expected".toList
  | unknownBinary word => quotedChars word ++ ": unknown binary operator".toList
  | closingExpected none => "')' expected".toList
  | closingExpected (some word) => "')' expected, found ".toList ++ quotedChars word
  | noLength operator => operator ++ " does not accept -l".toList

/-- The operators with two operands. -/
def binaryOperators : List String :=
  ["=", "!=", "==", "-nt", "-ot", "-ef", "-eq", "-ne", "-lt", "-le", "-gt", "-ge"]

/-- Whether a word is an operator with two operands. -/
def isBinary (word : List Char) : Bool :=
  binaryOperators.contains (String.ofList word)

/-- Whether a word compares numbers. -/
def comparesNumbers (word : List Char) : Bool :=
  ["-eq", "-ne", "-lt", "-le", "-gt", "-ge"].contains (String.ofList word)

/-- The answer to a comparison of two numbers. -/
def compareNumbers (operator : List Char) (left right : Int) : Bool :=
  match String.ofList operator with
  | "-eq" => left == right
  | "-ne" => left != right
  | "-lt" => left < right
  | "-le" => left ≤ right
  | "-gt" => right < left
  | _ => right ≤ left

/-- The letters of questions about one operand. -/
def questionLetters : List Char :=
  ['b', 'c', 'd', 'e', 'f', 'g', 'h', 'k', 'L', 'n', 'N', 'o', 'O', 'G', 'p', 'r', 's', 'S', 't', 'u',
    'w', 'x', 'z']

/-- The number of an operand; blanks around it do not count. -/
def integerOperand (word : List Char) : Except ConditionFault Int :=
  let body := word.dropWhile isBlankChar
  let trimmed := (body.reverse.dropWhile isBlankChar).reverse
  match decimalInteger? trimmed with
  | some n => .ok n
  | none => .error (.notInteger word)

/-- What reading a condition gives: the answer and the words that are left. -/
abbrev Answered := Except ConditionFault (Bool × List (List Char))

/-- Answers a question about one operand. -/
def answerQuestion (facts : FileFacts) (letter : Char) (operand : List Char) :
    Except ConditionFault Bool :=
  match letter with
  | 'n' => .ok (!operand.isEmpty)
  | 'z' => .ok operand.isEmpty
  | 't' => (integerOperand operand).map fun _ => false
  | _ => .ok (facts.ask letter operand)

/-- A question about the word that follows its sign; `last` is the very last word. -/
def readQuestion (facts : FileFacts) (last : List Char) (words : List (List Char)) : Answered :=
  match words with
  | sign :: rest =>
      match sign with
      | ['-', letter] =>
          if letter = 'o' || !questionLetters.contains letter then .error (.unaryExpected sign)
          else
            match rest with
            | [] => .error (.missingAfter last)
            | operand :: rest' => (answerQuestion facts letter operand).map fun b => (b, rest')
      | _ => .error (.unaryExpected sign)
  | [] => .error (.missingAfter last)

/-- An operand of a comparison of numbers: a number, or the length of a word. -/
def countOperand (isLength : Bool) (word : List Char) : Except ConditionFault Int :=
  if isLength then .ok word.length else integerOperand word

/-- A comparison of two operands; each may stand behind a sign that asks for its length. -/
def readComparison (facts : FileFacts) (last : List Char) (leftLength : Bool)
    (words : List (List Char)) : Answered :=
  match words with
  | left :: operator :: rest =>
      let (rightLength, rest) := match rest with
        | ['-', 'l'] :: right :: more => (true, right :: more)
        | more => (false, more)
      match rest with
      | [] => .error (.missingAfter last)
      | right :: rest' =>
          let withoutLength (answer : Bool) : Answered :=
            if leftLength || rightLength then .error (.noLength operator) else .ok (answer, rest')
          if comparesNumbers operator then
            match countOperand leftLength left, countOperand rightLength right with
            | .error e, _ => .error e
            | .ok _, .error e => .error e
            | .ok l, .ok r => .ok (compareNumbers operator l r, rest')
          else
            match String.ofList operator with
            | "-nt" =>
                withoutLength (facts.isNewer left right ||
                  ((facts.changed left).isSome && (facts.changed right).isNone))
            | "-ot" =>
                withoutLength (facts.isNewer right left ||
                  ((facts.changed left).isNone && (facts.changed right).isSome))
            | "-ef" => withoutLength (facts.isSame left right)
            | "!=" => .ok (left != right, rest')
            | "=" | "==" => .ok (left == right, rest')
            | _ => .error (.unknownBinary operator)
  | _ => .error (.missingAfter last)

/-- How many words a parenthesis is taken to hold: those before the first closing one if they are few, all
that are left else. -/
def enclosedCount (words : List (List Char)) : Nat :=
  let before := (words.tail.takeWhile (· != [')'])).length + 1
  if before < words.length && before ≤ 4 then before else words.length

mutual

/-- A condition of so many words. -/
def readCounted (facts : FileFacts) (last : List Char) :
    Nat → Nat → List (List Char) → Answered
  | 0, _, _ => .error (.missingAfter last)
  | fuel + 1, count, words =>
      match count, words with
      | 1, word :: rest => .ok (!word.isEmpty, rest)
      | 2, words => readTwo facts last words
      | 3, words => readThree facts last fuel words
      | 4, ['!'] :: rest =>
          (readThree facts last fuel rest).map fun answer => (!answer.1, answer.2)
      | 4, ['('] :: a :: b :: [')'] :: rest =>
          (readTwo facts last [a, b]).map fun answer => (answer.1, answer.2 ++ rest)
      | _, words => readEither facts last fuel words

/-- A condition of two words. -/
def readTwo (facts : FileFacts) (last : List Char) (words : List (List Char)) : Answered :=
  match words with
  | ['!'] :: word :: rest => .ok (word.isEmpty, rest)
  | ['-', _] :: _ => readQuestion facts last words
  | _ => .error (.missingAfter last)

/-- A condition of three words. -/
def readThree (facts : FileFacts) (last : List Char) :
    Nat → List (List Char) → Answered
  | 0, _ => .error (.missingAfter last)
  | fuel + 1, words =>
      match words with
      | first :: second :: third :: rest =>
          if isBinary second then readComparison facts last false words
          else if first = ['!'] then
            (readTwo facts last (second :: third :: rest)).map fun answer => (!answer.1, answer.2)
          else if first = ['('] && third = [')'] then .ok (!second.isEmpty, rest)
          else if second = ['-', 'a'] || second = ['-', 'o'] then readEither facts last fuel words
          else .error (.binaryExpected second)
      | _ => .error (.missingAfter last)

/-- Conditions joined by "or". -/
def readEither (facts : FileFacts) (last : List Char) :
    Nat → List (List Char) → Answered
  | 0, _ => .error (.missingAfter last)
  | fuel + 1, words =>
      match readBoth facts last fuel words with
      | .ok (left, ['-', 'o'] :: rest) =>
          (readEither facts last fuel rest).map fun answer => (left || answer.1, answer.2)
      | other => other

/-- Conditions joined by "and". -/
def readBoth (facts : FileFacts) (last : List Char) :
    Nat → List (List Char) → Answered
  | 0, _ => .error (.missingAfter last)
  | fuel + 1, words =>
      match readTerm facts last fuel words with
      | .ok (left, ['-', 'a'] :: rest) =>
          (readBoth facts last fuel rest).map fun answer => (left && answer.1, answer.2)
      | other => other

/-- A single condition, with negations in front of it. -/
def readTerm (facts : FileFacts) (last : List Char) :
    Nat → List (List Char) → Answered
  | 0, _ => .error (.missingAfter last)
  | fuel + 1, words =>
      match words with
      | [] => .error (.missingAfter last)
      | ['!'] :: rest =>
          (readTerm facts last fuel rest).map fun answer => (!answer.1, answer.2)
      | ['('] :: rest =>
          if rest.isEmpty then .error (.missingAfter last)
          else
            match readCounted facts last fuel (enclosedCount rest) rest with
            | .error e => .error e
            | .ok (answer, [')'] :: rest') => .ok (answer, rest')
            | .ok (_, word :: _) => .error (.closingExpected (some word))
            | .ok (_, []) => .error (.closingExpected none)
      | ['-', 'l'] :: left :: operator :: right :: rest =>
          if isBinary operator then
            readComparison facts last true (left :: operator :: right :: rest)
          else if isBinary left then readComparison facts last false words
          else readQuestion facts last words
      | first :: rest =>
          match rest with
          | operator :: _ :: _ =>
              if isBinary operator then readComparison facts last false words
              else
                match first with
                | ['-', _] => readQuestion facts last words
                | _ => .ok (!first.isEmpty, rest)
          | _ =>
              match first with
              | ['-', _] => readQuestion facts last words
              | _ => .ok (!first.isEmpty, rest)

end

/-- The answer to a condition; no words at all mean no. -/
def evaluateCondition (facts : FileFacts) (words : List (List Char)) : Except ConditionFault Bool :=
  if words.isEmpty then .ok false
  else
    match readCounted facts (words.getLast?.getD []) (8 * words.length + 16) words.length words with
    | .error e => .error e
    | .ok (answer, []) => .ok answer
    | .ok (_, word :: _) => .error (.extra word)

end JobShell.Machine.Utility
