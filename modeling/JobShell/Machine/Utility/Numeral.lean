/-
Module: JobShell.Machine.Utility.Numeral
Purpose: Whole numbers as programs read and print them.
Main exports: readDigits, readInteger, decimalInteger?, Layout, Layout.integer, Layout.natural
-/

namespace JobShell.Machine.Utility

/-- A blank in front of a number. -/
def isBlankChar (c : Char) : Bool :=
  c == ' ' || (9 ≤ c.toNat && c.toNat ≤ 13)

/-- The value of a digit in bases up to thirty-six. -/
def digitValue? (c : Char) : Option Nat :=
  if c.isDigit then some (c.toNat - '0'.toNat)
  else if 'a' ≤ c && c ≤ 'z' then some (c.toNat - 'a'.toNat + 10)
  else if 'A' ≤ c && c ≤ 'Z' then some (c.toNat - 'A'.toNat + 10)
  else none

/-- Whether a character is a digit in a base. -/
def isDigitIn (base : Nat) (c : Char) : Bool :=
  (digitValue? c).any (· < base)

/-- The number that digits write in a base. -/
def digitsValue (base : Nat) (digits : List Char) : Nat :=
  digits.foldl (fun n c => n * base + (digitValue? c).getD 0) 0

/-- The digits at the start of a text, and what follows them. -/
def readDigits (base : Nat) (text : List Char) : List Char × List Char :=
  (text.takeWhile (isDigitIn base), text.dropWhile (isDigitIn base))

/-- A sign at the start of a text, on if it is a minus, and what follows it. -/
def readSign (text : List Char) : Bool × List Char :=
  match text with
  | '-' :: rest => (true, rest)
  | '+' :: rest => (false, rest)
  | _ => (false, text)

/-- A number at the start of a text. -/
structure Numeral where
  negative : Bool
  magnitude : Nat
  /-- What follows the number. -/
  rest : List Char
deriving Repr, Inhabited, DecidableEq

/-- The number that a numeral writes. -/
def Numeral.value (n : Numeral) : Int :=
  if n.negative then -(n.magnitude : Int) else n.magnitude

/-- The base that the front of a number asks for, and the text after that front: sixteen after a zero and
an x, eight after a zero, ten else. -/
def readBase (text : List Char) : Nat × List Char :=
  match text with
  | '0' :: x :: d :: rest =>
      if (x == 'x' || x == 'X') && isDigitIn 16 d then (16, d :: rest)
      else (8, text)
  | '0' :: _ => (8, text)
  | _ => (10, text)

/-- The number at the start of a text, after blanks and with a sign, in the base that its front asks for
or always in base ten; nothing if there is no digit. -/
def readInteger (anyBase : Bool) (text : List Char) : Option Numeral :=
  let (negative, body) := readSign (text.dropWhile isBlankChar)
  let (base, start) := if anyBase then readBase body else (10, body)
  let (digits, rest) := readDigits base start
  if digits.isEmpty then none else some ⟨negative, digitsValue base digits, rest⟩

/-- The number that a text is, written in base ten with a sign or without. -/
def decimalInteger? (text : List Char) : Option Int :=
  let (negative, digits) := readSign text
  if digits.isEmpty || !digits.all Char.isDigit then none
  else some (Numeral.value ⟨negative, digitsValue 10 digits, []⟩)

/-!
## Words of sixty-four bits
-/

/-- How many words of sixty-four bits there are. -/
def wordCount : Nat := 18446744073709551616

/-- The largest signed number of sixty-four bits. -/
def largestWord : Int := 9223372036854775807

/-- The smallest signed number of sixty-four bits. -/
def smallestWord : Int := -9223372036854775808

/-- A number as a signed word of sixty-four bits, going round at the ends. -/
def wrapWord (n : Int) : Int :=
  n.bmod wordCount

/-- A number brought between the smallest and the largest signed word; the flag tells that it was
outside. -/
def clampWord (n : Int) : Int × Bool :=
  if largestWord < n then (largestWord, true)
  else if n < smallestWord then (smallestWord, true)
  else (n, false)

/-- The unsigned word of a numeral: a negative one counts from above; the flag tells that it was too
large. -/
def unsignedWord (n : Numeral) : Nat × Bool :=
  if wordCount ≤ n.magnitude then (wordCount - 1, true)
  else ((n.value % wordCount).toNat, false)

/-!
## Printing
-/

/-- How something is laid out when it is printed. -/
structure Layout where
  left : Bool := false
  plus : Bool := false
  blank : Bool := false
  alternate : Bool := false
  zero : Bool := false
  width : Nat := 0
  precision : Option Nat := none
deriving Repr, Inhabited, DecidableEq

namespace Layout

/-- Fills a text up to the width.  Zeros go between what stands in front of the digits and the digits. -/
def fill (l : Layout) (zeros : Bool) (front body : List Char) : List Char :=
  let missing := l.width - (front.length + body.length)
  if l.left then front ++ body ++ List.replicate missing ' '
  else if zeros then front ++ List.replicate missing '0' ++ body
  else List.replicate missing ' ' ++ front ++ body

/-- The sign of a number. -/
def sign (l : Layout) (negative : Bool) : List Char :=
  if negative then ['-'] else if l.plus then ['+'] else if l.blank then [' '] else []

/-- Digits, with zeros in front of them up to the precision.  With a precision of zero, the number zero
has no digits. -/
def digits (l : Layout) (base n : Nat) : List Char :=
  let plain := Nat.toDigits base n
  match l.precision with
  | none => plain
  | some 0 => if n = 0 then [] else plain
  | some least => List.replicate (least - plain.length) '0' ++ plain

/-- Whether zeros fill up a whole number. -/
def fillsZeros (l : Layout) : Bool :=
  l.zero && l.precision.isNone

/-- A signed number. -/
def integer (l : Layout) (n : Int) : List Char :=
  l.fill l.fillsZeros (l.sign (n < 0)) (l.digits 10 n.natAbs)

/-- An unsigned number in base ten, eight or sixteen. -/
def natural (l : Layout) (base : Nat) (upper : Bool) (n : Nat) : List Char :=
  let plain := l.digits base n
  let marked := if upper then plain.map Char.toUpper else plain
  if l.alternate && base = 8 then
    l.fill l.fillsZeros [] (if marked.head? = some '0' then marked else '0' :: marked)
  else if l.alternate && base = 16 && n ≠ 0 then
    l.fill l.fillsZeros ['0', if upper then 'X' else 'x'] marked
  else l.fill l.fillsZeros [] marked

/-- A text, at most as many characters of it as the precision tells. -/
def text (l : Layout) (chars : List Char) : List Char :=
  l.fill false [] ((l.precision.map chars.take).getD chars)

end Layout

end JobShell.Machine.Utility
