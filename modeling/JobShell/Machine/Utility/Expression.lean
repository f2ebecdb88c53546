/-
Module: JobShell.Machine.Utility.Expression
Purpose: The expressions of the expression program.  Its values are texts and whole numbers of any size;
  operands that do not matter for the value are read but not worked out.
Main exports: ExpressionFault, ExpressionValue, evaluateExpression
-/
import JobShell.Machine.Utility.Quoting
import JobShell.Machine.Utility.RegexReader

namespace JobShell.Machine.Utility

/-- Why an expression has no value. -/
inductive ExpressionFault where
  | missingAfter (word : List Char)
  | unexpected (word : List Char)
  | unexpectedClosing
  | closingAfter (word : List Char)
  | closingInstead (word : List Char)
  | notInteger
  | divisionByZero
  | pattern (fault : RegexFault)
deriving Repr, DecidableEq

/-- The message for an expression without a value. -/
def ExpressionFault.message : ExpressionFault → List Char
  | missingAfter word => "syntax error: missing argument after ".toList ++ quotedChars word
  | unexpected word => "syntax error: unexpected argument ".toList ++ quotedChars word
  | unexpectedClosing => "syntax error: unexpected ')'".toList
  | closingAfter word => "syntax error: expecting ')' after ".toList ++ quotedChars word
  | closingInstead word => "syntax error: expecting ')' instead of ".toList ++ quotedChars word
  | notInteger => "non-integer argument".toList
  | divisionByZero => "division by zero".toList
  | pattern fault => fault.message.toList

/-- A value. -/
inductive ExpressionValue where
  | text (chars : List Char)
  | number (n : Int)
deriving Repr, Inhabited, DecidableEq

namespace ExpressionValue

/-- The number that a text writes with digits only, or with a minus in front of them. -/
def integerOf? (text : List Char) : Option Int :=
  match text with
  | '+' :: _ => none
  | _ => decimalInteger? text

/-- A value as a number, if it is one. -/
def number? : ExpressionValue → Option Int
  | number n => some n
  | text chars => integerOf? chars

/-- A value as a text. -/
def chars : ExpressionValue → List Char
  | number n => (toString n).toList
  | text chars => chars

/-- Whether a value counts as nothing: it is empty or zero. -/
def isNull : ExpressionValue → Bool
  | number n => n == 0
  | text chars => chars.isEmpty || integerOf? chars == some 0

/-- The value of a truth. -/
def ofBool (b : Bool) : ExpressionValue :=
  number (if b then 1 else 0)

/-- The order of two values: by number if both are numbers, by text else. -/
def order (left right : ExpressionValue) : Ordering :=
  match left.number?, right.number? with
  | some l, some r => compare l r
  | _, _ => compare (String.ofList left.chars) (String.ofList right.chars)

end ExpressionValue

/-- The strength of an operator; zero for a word that is none. -/
def strength (word : List Char) : Nat :=
  match String.ofList word with
  | "|" => 1
  | "&" => 2
  | "=" | "==" | "!=" | "<" | "<=" | ">" | ">=" => 3
  | "+" | "-" => 4
  | "*" | "/" | "%" => 5
  | ":" => 6
  | _ => 0

/-- What a pattern finds at the front of a text: its first group if it has one, the length of the match
else. -/
def matchFront (text pattern : List Char) : Except ExpressionFault ExpressionValue :=
  match readRegex { strict := false } pattern with
  | .error fault => .error (.pattern fault)
  | .ok (regex, _) =>
      let subject : Subject := { text := text.toArray, keepsGroups := true }
      let hasGroup : Bool := (pattern.zip pattern.tail).any (· == ('\\', '('))
      match regex.longestAt subject (fun _ => true) 0 with
      | none => .ok (if hasGroup then .text [] else .number 0)
      | some reached =>
          if !hasGroup then .ok (.number reached.position)
          else
            match reached.groups.find? fun g => g.1 == 1 with
            | some (_, start, finish) => .ok (.text (subject.stretch start finish))
            | none => .ok (.text [])

/-- Applies an operator on numbers. -/
def applyArithmetic (operator : String) (left right : ExpressionValue) :
    Except ExpressionFault ExpressionValue :=
  match left.number?, right.number? with
  | some l, some r =>
      if operator = "+" then .ok (.number (l + r))
      else if operator = "-" then .ok (.number (l - r))
      else if operator = "*" then .ok (.number (l * r))
      else if r = 0 then .error .divisionByZero
      else if operator = "/" then .ok (.number (l.tdiv r))
      else .ok (.number (l.tmod r))
  | _, _ => .error .notInteger

/-- Applies an operator; where the value does not matter, the left operand stands for it. -/
def applyOperator (matters : Bool) (operator : String) (left right : ExpressionValue) :
    Except ExpressionFault ExpressionValue :=
  let order := left.order right
  match operator with
  | "|" => .ok (if !left.isNull then left else if !right.isNull then right else .number 0)
  | "&" => .ok (if left.isNull || right.isNull then .number 0 else left)
  | "=" | "==" => .ok (.ofBool (order == .eq))
  | "!=" => .ok (.ofBool (order != .eq))
  | "<" => .ok (.ofBool (order == .lt))
  | "<=" => .ok (.ofBool (order != .gt))
  | ">" => .ok (.ofBool (order == .gt))
  | ">=" => .ok (.ofBool (order != .lt))
  | ":" => if matters then matchFront left.chars right.chars else .ok left
  | _ => if matters then applyArithmetic operator left right else .ok left

/-- Whether the right operand of an operator matters, seeing the left one. -/
def rightMatters (operator : String) (left : ExpressionValue) : Bool :=
  match operator with
  | "|" => left.isNull
  | "&" => !left.isNull
  | _ => true

/-- The place of the first character of a text that is one of some others, from one on, or zero. -/
def indexOfAny (text others : List Char) : Nat :=
  ((text.findIdx? others.contains).map (· + 1)).getD 0

/-- A part of a text, from a place on, counted from one, and so long. -/
def partOf (text : List Char) (start length : ExpressionValue) : List Char :=
  match start.number?, length.number? with
  | some s, some l => if s ≤ 0 || l ≤ 0 then [] else (text.drop (s.toNat - 1)).take l.toNat
  | _, _ => []

/-- The functions by name, with the number of their operands. -/
def functionArity? (word : List Char) : Option Nat :=
  match String.ofList word with
  | "length" => some 1
  | "match" | "index" => some 2
  | "substr" => some 3
  | _ => none

/-- Applies a function. -/
def applyFunction (matters : Bool) (name : List Char) (operands : List ExpressionValue) :
    Except ExpressionFault ExpressionValue :=
  match String.ofList name, operands with
  | "length", [text] => .ok (.number text.chars.length)
  | "match", [text, pattern] => if matters then matchFront text.chars pattern.chars else .ok text
  | "index", [text, others] => .ok (.number (indexOfAny text.chars others.chars))
  | "substr", [text, start, length] => .ok (.text (partOf text.chars start length))
  | _, _ => .ok (.text [])

/-- What reading an expression gives: its value, the last word that belongs to it, and the words that are
left. -/
abbrev Valued := Except ExpressionFault (ExpressionValue × List Char × List (List Char))

mutual

/-- Reads an expression whose operators have at least a strength; `previous` stands before it. -/
def readExpression (least : Nat) (matters : Bool) :
    Nat → List Char → List (List Char) → Valued
  | 0, previous, _ => .error (.missingAfter previous)
  | fuel + 1, previous, words =>
      match readOperand matters fuel previous words with
      | .error e => .error e
      | .ok (value, last, rest) => continueExpression least matters fuel value last rest

/-- Reads an operand: a word, a function with its operands, or an expression between parentheses. -/
def readOperand (matters : Bool) : Nat → List Char → List (List Char) → Valued
  | 0, previous, _ => .error (.missingAfter previous)
  | fuel + 1, previous, words =>
      match words with
      | [] => .error (.missingAfter previous)
      | ['+'] :: rest =>
          match rest with
          | [] => .error (.missingAfter ['+'])
          | word :: rest' => .ok (.text word, word, rest')
      | ['('] :: rest =>
          match readExpression 1 matters fuel ['('] rest with
          | .error e => .error e
          | .ok (_, last, []) => .error (.closingAfter last)
          | .ok (value, _, [')'] :: rest') => .ok (value, [')'], rest')
          | .ok (_, _, word :: _) => .error (.closingInstead word)
      | [')'] :: _ => .error .unexpectedClosing
      | word :: rest =>
          match functionArity? word with
          | none => .ok (.text word, word, rest)
          | some count =>
              match readOperands matters fuel count word rest with
              | .error e => .error e
              | .ok (operands, last, rest') =>
                  (applyFunction matters word operands).map fun value => (value, last, rest')

/-- Reads so many operands. -/
def readOperands (matters : Bool) :
    Nat → Nat → List Char → List (List Char) →
      Except ExpressionFault (List ExpressionValue × List Char × List (List Char))
  | 0, _, previous, _ => .error (.missingAfter previous)
  | fuel + 1, count, previous, words =>
      match count with
      | 0 => .ok ([], previous, words)
      | left + 1 =>
          match readOperand matters fuel previous words with
          | .error e => .error e
          | .ok (value, last, rest) =>
              match readOperands matters fuel left last rest with
              | .error e => .error e
              | .ok (others, last', rest') => .ok (value :: others, last', rest')

/-- Reads the operators that follow a value. -/
def continueExpression (least : Nat) (matters : Bool) :
    Nat → ExpressionValue → List Char → List (List Char) → Valued
  | 0, value, last, words => .ok (value, last, words)
  | fuel + 1, value, last, words =>
      match words with
      | [] => .ok (value, last, [])
      | operator :: rest =>
          let power := strength operator
          if power < least || power = 0 then .ok (value, last, words)
          else
            let name := String.ofList operator
            let counts := matters && rightMatters name value
            match readExpression (power + 1) counts fuel operator rest with
            | .error e => .error e
            | .ok (right, last', rest') =>
                match applyOperator matters name value right with
                | .error e => .error e
                | .ok result => continueExpression least matters fuel result last' rest'

end

/-- The value of an expression. -/
def evaluateExpression (words : List (List Char)) : Except ExpressionFault ExpressionValue :=
  match readExpression 1 true (8 * words.length + 16) [] words with
  | .error e => .error e
  | .ok (value, _, []) => .ok value
  | .ok (_, _, word :: _) => .error (.unexpected word)

end JobShell.Machine.Utility
