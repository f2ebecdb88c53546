/-
Module: JobShell.Machine.Script.Condition
Purpose: Conditions as the test command of scripts reads them: by a grammar, in which a word counts as an
  operator only where it can be one.
Main exports: ScriptConditionFault, evaluateScriptCondition
-/
import JobShell.Machine.Utility.Condition

namespace JobShell.Machine.Script

open Utility (FileFacts readInteger clampWord isBlankChar)

/-- Why a condition has no answer: what is said, with the word it is about. -/
inductive ScriptConditionFault where
  | notNumber (word : List Char)
  | argumentExpected (operator : List Char)
  | closingExpected
  | unexpectedOperator (word : List Char)
deriving Repr, DecidableEq

/-- The message for a condition without an answer. -/
def ScriptConditionFault.message : ScriptConditionFault → List Char
  | notNumber word => "Illegal number: ".toList ++ word
  | argumentExpected operator => operator ++ ": argument expected".toList
  | closingExpected => "closing paren expected".toList
  | unexpectedOperator word =>
      (if word.isEmpty then [] else word ++ [':', ' ']) ++ "unexpected operator".toList

/-- The kinds of words that mean something in a condition. -/
inductive OperatorKind where
  | unary (letter : Char)
  | binary
  | negation
  | joinAnd
  | joinOr
  | opening
  | closing
deriving Repr, DecidableEq

/-- The letters of questions about one operand. -/
def unaryLetters : List Char :=
  ['r', 'w', 'x', 'e', 'f', 'd', 'c', 'b', 'p', 'u', 'g', 'k', 's', 't', 'z', 'n', 'h', 'O', 'G', 'L',
    'S']

/-- The operators with two operands. -/
def binaryWords : List String :=
  ["=", "!=", "<", ">", "-eq", "-ne", "-gt", "-ge", "-lt", "-le", "-nt", "-ot", "-ef"]

/-- What a word can mean. -/
def operatorKind? (word : List Char) : Option OperatorKind :=
  match word with
  | ['!'] => some .negation
  | ['('] => some .opening
  | [')'] => some .closing
  | ['-', 'a'] => some .joinAnd
  | ['-', 'o'] => some .joinOr
  | ['-', letter] => if unaryLetters.contains letter then some (.unary letter) else none
  | _ => if binaryWords.contains (String.ofList word) then some .binary else none

/-- Whether a word that could ask about one operand is itself an operand, seeing what follows it. -/
def isOperand (rest : List (List Char)) : Bool :=
  match rest with
  | [] => true
  | [_] => false
  | next :: _ => operatorKind? next == some .binary

/-- What the first of some words means where it stands. -/
def meaningOf (words : List (List Char)) : Option OperatorKind :=
  match words with
  | [] => none
  | word :: rest =>
      match operatorKind? word with
      | some (.unary letter) => if isOperand rest then none else some (.unary letter)
      | some .opening => if rest.isEmpty then none else some .opening
      | kind => kind

/-- The number of an operand; blanks around it do not count. -/
def numberOperand (word : List Char) : Except ScriptConditionFault Int :=
  match readInteger false word with
  | none => .error (.notNumber word)
  | some n =>
      let (value, unfit) := clampWord n.value
      if unfit || n.rest.any (!isBlankChar ·) then .error (.notNumber word) else .ok value

/-- Answers a question about one operand. -/
def answerUnary (facts : FileFacts) (letter : Char) (operand : List Char) :
    Except ScriptConditionFault Bool :=
  match letter with
  | 'z' => .ok operand.isEmpty
  | 'n' => .ok (!operand.isEmpty)
  | 't' => (numberOperand operand).map fun _ => false
  | _ => .ok (facts.ask letter operand)

/-- Answers a question about two operands. -/
def answerBinary (facts : FileFacts) (left operator right : List Char) :
    Except ScriptConditionFault Bool :=
  let compared (answer : Int → Int → Bool) : Except ScriptConditionFault Bool :=
    match numberOperand left, numberOperand right with
    | .error e, _ => .error e
    | .ok _, .error e => .error e
    | .ok l, .ok r => .ok (answer l r)
  match String.ofList operator with
  | "=" => .ok (left == right)
  | "!=" => .ok (left != right)
  | "<" => .ok (decide (left < right))
  | ">" => .ok (decide (right < left))
  | "-eq" => compared fun l r => l == r
  | "-ne" => compared fun l r => l != r
  | "-gt" => compared fun l r => r < l
  | "-ge" => compared fun l r => r ≤ l
  | "-lt" => compared fun l r => l < r
  | "-le" => compared fun l r => l ≤ r
  | "-nt" => .ok (facts.isNewer left right)
  | "-ot" => .ok (facts.isNewer right left)
  | _ => .ok (facts.isSame left right)

/-- What reading a condition gives: the answer and the words from the last one that belongs to it. -/
abbrev ScriptAnswered := Except ScriptConditionFault (Bool × List (List Char))

/-- A question that needs no grammar: about one operand, about two, or about a word by itself.  `kind` is
what its first word means. -/
def readQuestion (facts : FileFacts) (kind : Option OperatorKind) (words : List (List Char)) :
    ScriptAnswered :=
  match words with
  | [] => .ok (false, [])
  | word :: rest =>
      match kind with
      | some (.unary letter) =>
          match rest with
          | [] => .error (.argumentExpected word)
          | operand :: _ => (answerUnary facts letter operand).map fun b => (b, rest)
      | _ =>
          if meaningOf rest == some .binary then
            match rest with
            | operator :: right :: more =>
                (answerBinary facts word operator right).map fun b => (b, right :: more)
            | operator :: [] => .error (.argumentExpected operator)
            | [] => .ok (!word.isEmpty, words)
          else .ok (!word.isEmpty, words)

mutual

/-- Conditions joined by "or", the first word meaning `kind`. -/
def readOr (facts : FileFacts) : Nat → Option OperatorKind → List (List Char) → ScriptAnswered
  | 0, _, words => .ok (false, words)
  | fuel + 1, kind, words =>
      match readAnd facts fuel kind words with
      | .error e => .error e
      | .ok (left, at_) =>
          if meaningOf at_.tail == some .joinOr then
            let next := at_.drop 2
            match readOr facts fuel (meaningOf next) next with
            | .error e => .error e
            | .ok (right, at_') => .ok (left || right, at_')
          else .ok (left, at_)

/-- Conditions joined by "and", the first word meaning `kind`. -/
def readAnd (facts : FileFacts) : Nat → Option OperatorKind → List (List Char) → ScriptAnswered
  | 0, _, words => .ok (false, words)
  | fuel + 1, kind, words =>
      match readNot facts fuel kind words with
      | .error e => .error e
      | .ok (left, at_) =>
          if meaningOf at_.tail == some .joinAnd then
            let next := at_.drop 2
            match readAnd facts fuel (meaningOf next) next with
            | .error e => .error e
            | .ok (right, at_') => .ok (left && right, at_')
          else .ok (left, at_)

/-- A condition with negations in front of it. -/
def readNot (facts : FileFacts) : Nat → Option OperatorKind → List (List Char) → ScriptAnswered
  | 0, _, words => .ok (false, words)
  | fuel + 1, kind, words =>
      if kind == some .negation then
        let rest := words.tail
        let answer :=
          if rest.isEmpty then .ok (false, words)
          else readNot facts fuel (meaningOf rest) rest
        answer.map fun a => (!a.1, a.2)
      else readPrimary facts fuel kind words

/-- A single condition. -/
def readPrimary (facts : FileFacts) :
    Nat → Option OperatorKind → List (List Char) → ScriptAnswered
  | 0, _, words => .ok (false, words)
  | fuel + 1, kind, words =>
      if words.isEmpty then .ok (false, words)
      else if kind == some .opening then
        let inside := words.tail
        if meaningOf inside == some .closing then .ok (false, inside)
        else
          match readOr facts fuel (meaningOf inside) inside with
          | .error e => .error e
          | .ok (answer, at_) =>
              if meaningOf at_.tail == some .closing then .ok (answer, at_.tail)
              else .error .closingExpected
      else readQuestion facts kind words

end

/-- The words that are looked at, once parentheses around few of them and negations in front of them have
been taken off; the flag tells whether the answer is turned round. -/
def peelCondition (turned : Bool) : Nat → List (List Char) → Bool × List (List Char) × Bool
  | 0, words => (turned, words, false)
  | fuel + 1, words =>
      let isPlain : Bool :=
        match words with
        | [_, operator, _] => operatorKind? operator == some .binary
        | _ => false
      if isPlain then (turned, words, true)
      else if words.length = 3 || words.length = 4 then
        match words with
        | ['('] :: rest =>
            if rest.getLast? = some [')'] then (turned, rest.dropLast, false)
            else (turned, words, false)
        | ['!'] :: rest => peelCondition true fuel rest
        | _ => (turned, words, false)
      else (turned, words, false)

/-- The answer to a condition; no words at all mean no. -/
def evaluateScriptCondition (facts : FileFacts) (words : List (List Char)) :
    Except ScriptConditionFault Bool :=
  let (turned, words, plain) := peelCondition false (words.length + 1) words
  if words.isEmpty then .ok turned
  else
    match readOr facts (8 * words.length + 16) (if plain then none else meaningOf words) words with
    | .error e => .error e
    | .ok (answer, at_) =>
        match at_ with
        | word :: _ :: _ => .error (.unexpectedOperator word)
        | _ => .ok (answer != turned)

end JobShell.Machine.Script
