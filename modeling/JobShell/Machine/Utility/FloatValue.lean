/-
Module: JobShell.Machine.Utility.FloatValue
Purpose: Numbers with a binary point, as programs read and print them.  A number that is read is rounded
  once, to the format's grid, with ties to even; a number that is printed is rounded from its exact
  value.
Main exports: FloatFormat, FloatValue, FloatFormat.read, FloatValue.print
-/
import JobShell.Machine.Utility.Numeral

namespace JobShell.Machine.Utility

/-- A binary format: how many bits a mantissa has, the exponent of the finest step, and the exponent that
no number reaches.  `wholeDigit` is on if the leading digit in base sixteen has four bits and not
one. -/
structure FloatFormat where
  precision : Nat
  finest : Int
  limit : Int
  wholeDigit : Bool
deriving Repr, Inhabited, DecidableEq

/-- The format of the machine with mantissas of fifty-three bits. -/
def FloatFormat.double : FloatFormat := ⟨53, -1074, 1024, false⟩

/-- The format of the machine with mantissas of sixty-four bits. -/
def FloatFormat.extended : FloatFormat := ⟨64, -16445, 16384, true⟩

/-- A number of a format: a mantissa times a power of two, or what lies beyond. -/
inductive FloatValue where
  | finite (negative : Bool) (mantissa : Nat) (exponent : Int)
  | infinite (negative : Bool)
  | undefined (negative : Bool)
deriving Repr, Inhabited, DecidableEq

/-- A quotient rounded to a whole number; a half goes to the even neighbour. -/
def divideToEven (numerator denominator : Nat) : Nat :=
  let q := numerator / denominator
  let r := numerator % denominator
  if 2 * r < denominator then q
  else if denominator < 2 * r then q + 1
  else if q % 2 = 0 then q else q + 1

/-- A quotient of two numbers times powers of a base, as a quotient of whole numbers. -/
def scaled (base : Nat) (exponent : Int) (numerator denominator : Nat) : Nat × Nat :=
  if 0 ≤ exponent then (numerator * base.pow exponent.toNat, denominator)
  else (numerator, denominator * base.pow (-exponent).toNat)

/-- The exponent of the largest power of a base that is not above a quotient, given a first guess that is
at most a few steps away. -/
def floorLog (base numerator denominator : Nat) (guess : Int) : Int :=
  let reaches (e : Int) : Bool :=
    let (n, d) := scaled base (-e) numerator denominator
    d ≤ n
  (([guess + 2, guess + 1, guess, guess - 1].find? reaches).getD (guess - 2))

/-- The exponent of the largest power of two that is not above a quotient. -/
def floorLogTwo (numerator denominator : Nat) : Int :=
  floorLog 2 numerator denominator ((numerator.log2 : Int) - denominator.log2)

/-- The exponent of the largest power of ten that is not above a quotient. -/
def floorLogTen (numerator denominator : Nat) : Int :=
  floorLog 10 numerator denominator (floorLogTwo numerator denominator * 30103 / 100000)

namespace FloatFormat

/-- The number of a format that is nearest to a quotient; the flag tells that the format cannot hold it
well. -/
def round (f : FloatFormat) (negative : Bool) (numerator denominator : Nat) : FloatValue × Bool :=
  if numerator = 0 then (.finite negative 0 0, false)
  else
    let step := max f.finest (floorLogTwo numerator denominator - (f.precision - 1 : Nat))
    let (n, d) := scaled 2 (-step) numerator denominator
    let mantissa := divideToEven n d
    if mantissa = 0 then (.finite negative 0 0, true)
    else if f.limit ≤ (mantissa.log2 : Int) + step then (.infinite negative, true)
    else (.finite negative mantissa step, mantissa < Nat.pow 2 (f.precision - 1) && mantissa * d != n)

/-- How far a written exponent is looked at. -/
def exponentLimit : Nat := 40000

/-- The exponent that follows a mark, if digits follow it. -/
def readExponent (mark : Char) (text : List Char) : Int × List Char :=
  match text with
  | c :: rest =>
      if c.toLower != mark then (0, text)
      else
        let (negative, body) := readSign rest
        let (digits, rest') := readDigits 10 body
        if digits.isEmpty then (0, text)
        else
          let size : Int := min exponentLimit (digitsValue 10 digits)
          (if negative then -size else size, rest')
  | [] => (0, text)

/-- Digits with a point among them: the digits before it, those after it, and what follows. -/
def readPoint (base : Nat) (text : List Char) : List Char × List Char × List Char :=
  let (whole, rest) := readDigits base text
  match rest with
  | '.' :: more =>
      let (fraction, rest') := readDigits base more
      if whole.isEmpty && fraction.isEmpty then ([], [], text) else (whole, fraction, rest')
  | _ => (whole, [], rest)

/-- A word at the start of a text, in either case, and what follows it. -/
def skipWord? (word : String) (text : List Char) : Option (List Char) :=
  if (text.take word.length).map Char.toLower == word.toList then some (text.drop word.length)
  else none

/-- What follows the word for an undefined number, with an addition in parentheses or without. -/
def skipAddition (text : List Char) : List Char :=
  match text with
  | '(' :: rest =>
      match rest.dropWhile fun c => c.isAlphanum || c == '_' with
      | ')' :: rest' => rest'
      | _ => text
  | _ => text

/-- A number that is written in base sixteen after its front. -/
def readHexadecimal (f : FloatFormat) (negative : Bool) (text : List Char) :
    Option ((FloatValue × Bool) × List Char) :=
  let (whole, fraction, rest) := readPoint 16 text
  if whole.isEmpty && fraction.isEmpty then none
  else
    let (exponent, rest') := readExponent 'p' rest
    let (n, d) := scaled 2 (exponent - 4 * fraction.length) (digitsValue 16 (whole ++ fraction)) 1
    some (f.round negative n d, rest')

/-- A number that is written in base ten. -/
def readDecimal (f : FloatFormat) (negative : Bool) (text : List Char) :
    Option ((FloatValue × Bool) × List Char) :=
  let (whole, fraction, rest) := readPoint 10 text
  if whole.isEmpty && fraction.isEmpty then none
  else
    let (exponent, rest') := readExponent 'e' rest
    let (n, d) := scaled 10 (exponent - fraction.length) (digitsValue 10 (whole ++ fraction)) 1
    some (f.round negative n d, rest')

/-- The number at the start of a text, whether the format holds it well, and what follows it; nothing if
there is no number. -/
def read (f : FloatFormat) (text : List Char) : Option ((FloatValue × Bool) × List Char) :=
  let (negative, body) := readSign (text.dropWhile isBlankChar)
  match skipWord? "infinity" body, skipWord? "inf" body, skipWord? "nan" body with
  | some rest, _, _ | none, some rest, _ => some ((.infinite negative, false), rest)
  | none, none, some rest => some ((.undefined negative, false), skipAddition rest)
  | none, none, none =>
      match skipWord? "0x" body with
      | some rest =>
          (f.readHexadecimal negative rest).orElse fun _ => f.readDecimal negative body
      | none => f.readDecimal negative body

end FloatFormat

/-!
## Printing
-/

namespace FloatValue

/-- Digits with a point after the first so many of them. -/
def withPoint (places : Nat) (forced : Bool) (digits : List Char) : List Char :=
  let front := digits.take (digits.length - places)
  let back := digits.drop (digits.length - places)
  if back.isEmpty && !forced then front else front ++ '.' :: back

/-- The digits of a number with at least so many of them. -/
def paddedDigits (least n : Nat) : List Char :=
  let plain := Nat.toDigits 10 n
  List.replicate (least - plain.length) '0' ++ plain

/-- A quotient with so many places after the point. -/
def fixed (places : Nat) (forced : Bool) (numerator denominator : Nat) : List Char :=
  withPoint places forced
    (paddedDigits (places + 1) (divideToEven (numerator * Nat.pow 10 places) denominator))

/-- A quotient as digits, one of them before the point, and the exponent that belongs to them. -/
def leadingDigits (places numerator denominator : Nat) : List Char × Int :=
  if numerator = 0 then (List.replicate (places + 1) '0', 0)
  else
    let exponent := floorLogTen numerator denominator
    let (n, d) := scaled 10 (places - exponent) numerator denominator
    let digits := Nat.toDigits 10 (divideToEven n d)
    if places + 1 < digits.length then (digits.take (places + 1), exponent + 1)
    else (digits, exponent)

/-- An exponent with its mark and sign. -/
def exponentText (mark : Char) (least : Nat) (exponent : Int) : List Char :=
  mark :: (if exponent < 0 then '-' else '+') :: paddedDigits least exponent.natAbs

/-- A quotient with an exponent. -/
def scientific (places : Nat) (forced : Bool) (numerator denominator : Nat) : List Char :=
  let (digits, exponent) := leadingDigits places numerator denominator
  withPoint places forced digits ++ exponentText 'e' 2 exponent

/-- Digits without the zeros at the end of the places after the point, and without the point if nothing
is left there. -/
def dropZeros (text : List Char) : List Char :=
  if text.contains '.' then
    match text.reverse.dropWhile (· == '0') with
    | '.' :: rest => rest.reverse
    | rest => rest.reverse
  else text

/-- A quotient with so many digits in all, with an exponent if it is very large or very small.  One that gets
an exponent only because rounding makes it longer has a single digit, even if zeros are kept. -/
def general (precision : Nat) (keepsZeros : Bool) (numerator denominator : Nat) : List Char :=
  let wanted := max precision 1
  let (digits, exponent) := leadingDigits (wanted - 1) numerator denominator
  let trim (text : List Char) : List Char := if keepsZeros then text else dropZeros text
  let isCarried := exponent = wanted && floorLogTen numerator denominator < exponent
  if keepsZeros && isCarried then "1.".toList ++ exponentText 'e' 2 exponent
  else if exponent < -4 || (wanted : Int) ≤ exponent then
    trim (withPoint (wanted - 1) keepsZeros digits) ++ exponentText 'e' 2 exponent
  else trim (fixed ((wanted : Int) - 1 - exponent).toNat keepsZeros numerator denominator)

/-- How many bits the digits after the point have in base sixteen. -/
def fractionBits (f : FloatFormat) : Nat :=
  if f.wholeDigit then 60 else 52

/-- A number in base sixteen, with as many places as it needs or as are asked for. -/
def hexadecimal (f : FloatFormat) (precision : Option Nat) (forced : Bool) (mantissa : Nat)
    (exponent : Int) : List Char :=
  let bits := fractionBits f
  if mantissa = 0 then
    withPoint (precision.getD 0) forced (List.replicate (precision.getD 0 + 1) '0') ++
      exponentText 'p' 1 0
  else
    let wanted := f.precision - 1
    let size := mantissa.log2
    let lowest := (max (exponent : Int) f.finest)
    let shift := if (f.finest : Int) < exponent + size - wanted then wanted - size
      else (exponent - lowest).toNat
    let whole := mantissa * Nat.pow 2 shift
    let power := exponent - shift + bits
    let places := bits / 4
    let hex (n : Nat) (least : Nat) : List Char :=
      let plain := Nat.toDigits 16 n
      List.replicate (least - plain.length) '0' ++ plain
    match precision with
    | some asked =>
        if asked < places then
          let rounded := hex (divideToEven whole (Nat.pow 16 (places - asked))) (asked + 1)
          if asked + 1 < rounded.length then
            withPoint asked forced (rounded.take (asked + 1)) ++ exponentText 'p' 1 (power + 4)
          else withPoint asked forced rounded ++ exponentText 'p' 1 power
        else
          withPoint asked forced (hex whole (places + 1) ++ List.replicate (asked - places) '0') ++
            exponentText 'p' 1 power
    | none =>
        let digits := dropZeros (withPoint places true (hex whole (places + 1)))
        (if forced && !digits.contains '.' then digits ++ ['.'] else digits) ++
          exponentText 'p' 1 power

/-- The digits of a number without its sign, in the manner that a letter asks for. -/
def digits (f : FloatFormat) (l : Layout) (letter : Char) (mantissa : Nat) (exponent : Int) :
    List Char :=
  let (n, d) := scaled 2 exponent mantissa 1
  let places := l.precision.getD 6
  match letter with
  | 'f' => fixed places l.alternate n d
  | 'e' => scientific places l.alternate n d
  | 'a' => hexadecimal f l.precision l.alternate mantissa exponent
  | _ => general places l.alternate n d

/-- A number as a conversion letter asks for it; a capital letter asks for capitals. -/
def print (f : FloatFormat) (l : Layout) (letter : Char) (value : FloatValue) : List Char :=
  let lower := letter.toLower
  let inCase (text : List Char) : List Char := if letter.isUpper then text.map Char.toUpper else text
  match value with
  | .infinite negative => inCase (l.fill false (l.sign negative) "inf".toList)
  | .undefined negative => inCase (l.fill false (l.sign negative) "nan".toList)
  | .finite negative mantissa exponent =>
      let front := l.sign negative ++ (if lower = 'a' then ['0', 'x'] else [])
      inCase (l.fill l.zero front (digits f l lower mantissa exponent))

end FloatValue

end JobShell.Machine.Utility
