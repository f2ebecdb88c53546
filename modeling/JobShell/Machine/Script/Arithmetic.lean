/-
Module: JobShell.Machine.Script.Arithmetic
Purpose: Expressions of whole numbers, in words of sixty-four bits that go round at the ends.
Main exports: evaluateArithmetic
-/
import JobShell.Machine.Script.State

namespace JobShell.Machine.Script

open Utility (readInteger clampWord wordCount wrapWord)

/-!
## Tokens
-/

/-- The operators between two numbers. -/
inductive BinaryOperator where
  | times
  | dividedBy
  | modulo
  | plus
  | minus
  | shiftLeft
  | shiftRight
  | less
  | lessEqual
  | greater
  | greaterEqual
  | equal
  | notEqual
  | bitAnd
  | bitXor
  | bitOr
deriving Repr, Inhabited, DecidableEq

namespace BinaryOperator

/-- How loosely an operator binds. -/
def looseness : BinaryOperator → Nat
  | times | dividedBy | modulo => 0
  | plus | minus => 1
  | shiftLeft | shiftRight => 2
  | less | lessEqual | greater | greaterEqual => 3
  | equal | notEqual => 4
  | bitAnd => 5
  | bitXor => 6
  | bitOr => 7

/-- The looseness beyond every operator. -/
def loosest : Nat := 8

end BinaryOperator

/-- What an expression is made of; `bad` stands for anything else. -/
inductive ArithmeticToken where
  | number (value : Int)
  | name (name : List Char)
  | operator (op : BinaryOperator)
  | assign (op : Option BinaryOperator)
  | andAnd
  | orOr
  | not
  | bitNot
  | question
  | colon
  | leftParen
  | rightParen
  | bad
deriving Repr, Inhabited, DecidableEq

/-- An operator, or an assignment by it if an equals sign follows. -/
def operatorToken (op : BinaryOperator) (rest : List Char) : ArithmeticToken × List Char :=
  match rest with
  | '=' :: more => (.assign (some op), more)
  | _ => (.operator op, rest)

/-- The token at the start of a text that does not begin with a blank, and what follows it. -/
def arithmeticTokenAt (c : Char) (rest : List Char) : ArithmeticToken × List Char :=
  if c.isDigit then
    match readInteger true (c :: rest) with
    | some n => (.number (clampWord n.value).1, n.rest)
    | none => (.bad, rest)
  else if isNameStart c then
    let (name, more) := splitName (c :: rest)
    (.name name, more)
  else
    match c, rest with
    | '=', '=' :: more => (.operator .equal, more)
    | '=', _ => (.assign none, rest)
    | '>', '=' :: more => (.operator .greaterEqual, more)
    | '>', '>' :: more => operatorToken .shiftRight more
    | '>', _ => (.operator .greater, rest)
    | '<', '=' :: more => (.operator .lessEqual, more)
    | '<', '<' :: more => operatorToken .shiftLeft more
    | '<', _ => (.operator .less, rest)
    | '|', '|' :: more => (.orOr, more)
    | '|', _ => operatorToken .bitOr rest
    | '&', '&' :: more => (.andAnd, more)
    | '&', _ => operatorToken .bitAnd rest
    | '!', '=' :: more => (.operator .notEqual, more)
    | '!', _ => (.not, rest)
    | '(', _ => (.leftParen, rest)
    | ')', _ => (.rightParen, rest)
    | '*', _ => operatorToken .times rest
    | '/', _ => operatorToken .dividedBy rest
    | '%', _ => operatorToken .modulo rest
    | '+', _ => operatorToken .plus rest
    | '-', _ => operatorToken .minus rest
    | '^', _ => operatorToken .bitXor rest
    | '~', _ => (.bitNot, rest)
    | '?', _ => (.question, rest)
    | ':', _ => (.colon, rest)
    | _, _ => (.bad, rest)

/-- The tokens of an expression, in at most so many steps. -/
def arithmeticTokens : Nat → List Char → List ArithmeticToken
  | 0, _ => []
  | _ + 1, [] => []
  | fuel + 1, c :: rest =>
      if c = ' ' || c = '\t' || c = '\n' then arithmeticTokens fuel rest
      else
        let (token, more) := arithmeticTokenAt c rest
        token :: arithmeticTokens fuel more

/-!
## Values
-/

/-- What is worked on: the tokens that are left, and the script whose variables are used. -/
structure ArithmeticState where
  tokens : List ArithmeticToken
  text : List Char
  script : ScriptState

/-- Working out an expression. -/
abbrev Arithmetic (α : Type) := ExceptT Trouble (StateM ArithmeticState) α

/-- Gives up with a complaint about the expression. -/
def refuseArithmetic {α : Type} (reason : String) : Arithmetic α := do
  let s ← get
  throw (.complaint (("arithmetic expression: " ++ reason ++ ": \"").toList ++ s.text ++ ['"']))

/-- The next token, which stays. -/
def peekToken : Arithmetic (Option ArithmeticToken) := do
  return (← get).tokens.head?

/-- Takes the next token. -/
def dropToken : Arithmetic Unit :=
  modify fun s => { s with tokens := s.tokens.tail }

/-- The value of a variable; one that is unset counts as zero. -/
def variableNumber (name : List Char) : Arithmetic Int := do
  let word := ((← get).script.bindings.value? name).getD []
  match wholeNumber? true word with
  | some n => return n
  | none => throw (.complaint (badNumber word))

/-- Gives a variable a number. -/
def assignNumber (name : List Char) (value : Int) : Arithmetic Unit := do
  let s ← get
  match s.script.assign name (some (toString value).toList) {} with
  | .ok script => set { s with script := script }
  | .error text => throw (.complaint text)

/-- The signal of a number that does not fit. -/
def arithmeticSignal : Nat := 8

/-- A truth value as a number. -/
def truth (b : Bool) : Int :=
  if b then 1 else 0

/-- A signed word as an unsigned one. -/
def unsigned (n : Int) : Nat :=
  (n % wordCount).toNat

/-- What an operator makes of two numbers. -/
def applyOperator (op : BinaryOperator) (a b : Int) : Arithmetic Int :=
  let bits (f : Nat → Nat → Nat) : Int := wrapWord (f (unsigned a) (unsigned b))
  match op with
  | .times => return wrapWord (a * b)
  | .plus => return wrapWord (a + b)
  | .minus => return wrapWord (a - b)
  | .dividedBy | .modulo =>
      if b = 0 then refuseArithmetic "division by zero"
      else if wrapWord (Int.tdiv a b) ≠ Int.tdiv a b then throw (.crash arithmeticSignal)
      else return if op = .dividedBy then Int.tdiv a b else Int.tmod a b
  | .shiftLeft => return wrapWord (unsigned a * Nat.pow 2 (unsigned b % 64) : Nat)
  | .shiftRight => return Int.fdiv a (Nat.pow 2 (unsigned b % 64) : Nat)
  | .less => return truth (a < b)
  | .lessEqual => return truth (a ≤ b)
  | .greater => return truth (b < a)
  | .greaterEqual => return truth (b ≤ a)
  | .equal => return truth (a = b)
  | .notEqual => return truth (a ≠ b)
  | .bitAnd => return bits (· &&& ·)
  | .bitXor => return bits (· ^^^ ·)
  | .bitOr => return bits (· ||| ·)

/-!
## Grammar

With `idle` on, the value does not count, and nothing is looked up, worked out or set.
-/

mutual

/-- An assignment, or anything else. -/
def readAssignment (idle : Bool) : Nat → Arithmetic Int
  | 0 => refuseArithmetic "expecting primary"
  | fuel + 1 => do
      match (← get).tokens with
      | .name name :: .assign op :: rest =>
          modify fun s => { s with tokens := rest }
          let value ← readAssignment idle fuel
          if idle then return value
          else
            let result ← match op with
              | none => pure value
              | some op => do applyOperator op (← variableNumber name) value
            assignNumber name result
            return result
      | _ => readConditional idle fuel

/-- A choice between two values, or anything that binds more closely. -/
def readConditional (idle : Bool) : Nat → Arithmetic Int
  | 0 => refuseArithmetic "expecting primary"
  | fuel + 1 => do
      let condition ← readDisjunction idle fuel
      if (← peekToken) ≠ some .question then return condition
      else
        dropToken
        let yes ← readAssignment (idle || condition == 0) fuel
        if (← peekToken) ≠ some .colon then refuseArithmetic "expecting ':'"
        else
          dropToken
          let no ← readConditional (idle || condition != 0) fuel
          return if condition ≠ 0 then yes else no

/-- Numbers of which one must not be zero. -/
def readDisjunction (idle : Bool) : Nat → Arithmetic Int
  | 0 => refuseArithmetic "expecting primary"
  | fuel + 1 => do
      let left ← readConjunction idle fuel
      if (← peekToken) ≠ some .orOr then return left
      else
        dropToken
        let right ← readDisjunction (idle || left != 0) fuel
        return truth (left ≠ 0 || right ≠ 0)

/-- Numbers of which none must be zero. -/
def readConjunction (idle : Bool) : Nat → Arithmetic Int
  | 0 => refuseArithmetic "expecting primary"
  | fuel + 1 => do
      let left ← readOperation idle fuel
      if (← peekToken) ≠ some .andAnd then return left
      else
        dropToken
        let right ← readConjunction (idle || left == 0) fuel
        return truth (left ≠ 0 && right ≠ 0)

/-- Numbers with operators between them. -/
def readOperation (idle : Bool) : Nat → Arithmetic Int
  | 0 => refuseArithmetic "expecting primary"
  | fuel + 1 => do
      let left ← readOperand idle fuel
      match ← peekToken with
      | some (.operator op) => readOperators idle fuel left op BinaryOperator.loosest
      | _ => return left

/-- The rest of an operation: `left` stands in front of the next operator `op`, and operators that bind less
closely than `bound` are left alone. -/
def readOperators (idle : Bool) : Nat → Int → BinaryOperator → Nat → Arithmetic Int
  | 0, _, _, _ => refuseArithmetic "expecting primary"
  | fuel + 1, left, op, bound => do
      dropToken
      let first ← readOperand idle fuel
      let right ← match ← peekToken with
        | some (.operator next) =>
            if next.looseness < op.looseness then readOperators idle fuel first next op.looseness
            else pure first
        | _ => pure first
      let value ← if idle then pure right else applyOperator op left right
      match ← peekToken with
      | some (.operator next) =>
          if bound ≤ next.looseness then return value else readOperators idle fuel value next bound
      | _ => return value

/-- A number, a variable, something in parentheses, or one of these with signs in front. -/
def readOperand (idle : Bool) : Nat → Arithmetic Int
  | 0 => refuseArithmetic "expecting primary"
  | fuel + 1 => do
      match ← peekToken with
      | some (.number n) =>
          dropToken
          return n
      | some (.name name) =>
          dropToken
          if idle then return 0 else variableNumber name
      | some .leftParen =>
          dropToken
          let value ← readAssignment idle fuel
          if (← peekToken) ≠ some .rightParen then refuseArithmetic "expecting ')'"
          else
            dropToken
            return value
      | some (.operator .plus) =>
          dropToken
          readOperand idle fuel
      | some (.operator .minus) =>
          dropToken
          return wrapWord (-(← readOperand idle fuel))
      | some .not =>
          dropToken
          return truth ((← readOperand idle fuel) = 0)
      | some .bitNot =>
          dropToken
          return -(← readOperand idle fuel) - 1
      | _ => refuseArithmetic "expecting primary"

end

/-- A whole expression. -/
def readExpression (fuel : Nat) : Arithmetic Int := do
  let value ← readAssignment false fuel
  if (← peekToken).isSome then refuseArithmetic "expecting EOF" else return value

/-- The value of an expression; variables may be set on the way. -/
def evaluateArithmetic (text : List Char) : Expanding Int := fun _ s =>
  let tokens := arithmeticTokens (text.length + 1) text
  match (readExpression (8 * tokens.length + 16)).run { tokens := tokens, text := text, script := s } with
  | (.ok value, after) => .done after.script value
  | (.error trouble, after) => .failed after.script trouble

end JobShell.Machine.Script
