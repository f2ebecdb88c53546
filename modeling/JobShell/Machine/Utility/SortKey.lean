/-
Module: JobShell.Machine.Utility.SortKey
Purpose: What lines are sorted by: a stretch of each line, and the order of two such stretches.
Main exports: SortKey, SortKey.stretch, SortKey.compare
-/
import JobShell.Machine.Utility.FloatValue
import JobShell.Machine.Utility.VersionOrder

namespace JobShell.Machine.Utility

/-- The characters that an order passes over: all but letters, digits and blanks, or all that cannot be
printed. -/
inductive PassedOver where
  | nothing
  | signs
  | unprintable
deriving Repr, Inhabited, DecidableEq

/-- What lines are sorted by.  Fields and characters are counted from zero; without a last field the
stretch goes to the end of the line, and without a last character to the end of the last field. -/
structure SortKey where
  firstField : Nat := 0
  firstChar : Nat := 0
  lastField : Option Nat := none
  lastChar : Nat := 0
  skipsAtStart : Bool := false
  skipsAtEnd : Bool := false
  passes : PassedOver := .nothing
  folds : Bool := false
  numeric : Bool := false
  general : Bool := false
  human : Bool := false
  month : Bool := false
  version : Bool := false
  random : Bool := false
  descends : Bool := false
  /-- The key is written in the old notation. -/
  legacy : Bool := false
deriving Repr, Inhabited, DecidableEq

/-- Where blanks at the start of fields are passed over. -/
inductive BlankPlace where
  | start
  | finish
  | both
deriving Repr, DecidableEq

/-- Whether a character separates fields if nothing else does. -/
def isFieldBlank (c : Char) : Bool :=
  c == ' ' || c == '\t' || c == '\n'

namespace SortKey

/-- Takes in the letters of orders at the start of a text, and gives what follows them. -/
def takeLetters (place : BlankPlace) : List Char → SortKey → SortKey × List Char
  | [], k => (k, [])
  | c :: rest, k =>
      match c with
      | 'b' =>
          takeLetters place rest
            { k with
              skipsAtStart := k.skipsAtStart || place ≠ .finish
              skipsAtEnd := k.skipsAtEnd || place ≠ .start }
      | 'd' => takeLetters place rest { k with passes := .signs }
      | 'f' => takeLetters place rest { k with folds := true }
      | 'g' => takeLetters place rest { k with general := true }
      | 'h' => takeLetters place rest { k with human := true }
      | 'i' =>
          takeLetters place rest
            { k with passes := if k.passes = .nothing then .unprintable else k.passes }
      | 'M' => takeLetters place rest { k with month := true }
      | 'n' => takeLetters place rest { k with numeric := true }
      | 'R' => takeLetters place rest { k with random := true }
      | 'r' => takeLetters place rest { k with descends := true }
      | 'V' => takeLetters place rest { k with version := true }
      | _ => (k, c :: rest)

/-- Whether a key asks for no order of its own. -/
def isPlain (k : SortKey) : Bool :=
  k.passes = .nothing &&
    !(k.folds || k.skipsAtStart || k.skipsAtEnd || k.month || k.numeric || k.general || k.human ||
      k.version || k.random)

/-- A key with the orders of another one. -/
def withOrdersOf (k other : SortKey) : SortKey :=
  { other with
    firstField := k.firstField, firstChar := k.firstChar
    lastField := k.lastField, lastChar := k.lastChar
    legacy := k.legacy }

/-- Whether the orders that a key asks for exclude each other. -/
def isContradictory (k : SortKey) : Bool :=
  let others := k.version || k.random || k.passes ≠ .nothing
  1 < [k.numeric, k.general, k.human, k.month, others].countP id

/-- The letters of the orders that a key asks for. -/
def letters (k : SortKey) : String :=
  String.join
    [ if k.passes = .signs then "d" else "", if k.folds then "f" else "",
      if k.general then "g" else "", if k.human then "h" else "",
      if k.passes = .unprintable then "i" else "", if k.month then "M" else "",
      if k.numeric then "n" else "", if k.random then "R" else "",
      if k.version then "V" else "" ]

/-!
## The stretch of a line
-/

/-- What follows the first so many fields of a line; `last` tells to stop in front of the separator after
the last of them. -/
def skipFields (tab : Option Char) (last : Bool) : Nat → List Char → List Char
  | 0, line => line
  | n + 1, line =>
      match tab with
      | none => skipFields tab last n ((line.dropWhile isFieldBlank).dropWhile (!isFieldBlank ·))
      | some c =>
          let rest := line.dropWhile (· != c)
          skipFields tab last n (if n = 0 && last then rest else rest.drop 1)

/-- Where the stretch of a line starts. -/
def startOf (k : SortKey) (tab : Option Char) (line : List Char) : Nat :=
  let rest := skipFields tab false k.firstField line
  let trimmed := if k.skipsAtStart then rest.dropWhile isFieldBlank else rest
  min line.length (line.length - trimmed.length + k.firstChar)

/-- Where the stretch of a line ends. -/
def endOf (k : SortKey) (tab : Option Char) (line : List Char) : Nat :=
  match k.lastField with
  | none => line.length
  | some field =>
      if k.lastChar = 0 then line.length - (skipFields tab true (field + 1) line).length
      else
        let rest := skipFields tab false field line
        let trimmed := if k.skipsAtEnd then rest.dropWhile isFieldBlank else rest
        min line.length (line.length - trimmed.length + k.lastChar)

/-- Whether an order passes over a character. -/
def passesOver (k : SortKey) (c : Char) : Bool :=
  match k.passes with
  | .nothing => false
  | .signs => !(isFieldBlank c || c.isAlphanum)
  | .unprintable => !(32 ≤ c.toNat && c.toNat < 127)

/-- The stretch of a line that a key looks at, as it looks at it. -/
def stretch (k : SortKey) (tab : Option Char) (line : List Char) : List Char :=
  let start := k.startOf tab line
  let plain := (line.drop start).take (k.endOf tab line - start)
  let seen := if k.passes = .nothing then plain else plain.filter fun c => !k.passesOver c
  if k.folds then seen.map Char.toUpper else seen

/-!
## Orders
-/

/-- The order of texts by their characters. -/
def compareChars (a b : List Char) : Ordering :=
  match a, b with
  | [], [] => .eq
  | [], _ => .lt
  | _, [] => .gt
  | x :: xs, y :: ys =>
      match Ord.compare x.toNat y.toNat with
      | .eq => compareChars xs ys
      | order => order

/-- A number that is written with digits and a point: its sign, the digits before the point without zeros
in front, and those after it without zeros at the end. -/
structure DecimalText where
  negative : Bool
  whole : List Char
  fraction : List Char

/-- The number at the start of a text. -/
def decimalAt (text : List Char) : DecimalText :=
  let (negative, body) := match text with
    | '-' :: rest => (true, rest)
    | _ => (false, text)
  let (digits, rest) := readDigits 10 body
  let fraction := match rest with
    | '.' :: more => (readDigits 10 more).1
    | _ => []
  let whole := digits.dropWhile (· == '0')
  let places := (fraction.reverse.dropWhile (· == '0')).reverse
  ⟨negative && !(whole.isEmpty && places.isEmpty), whole, places⟩

/-- The order of the sizes of two numbers. -/
def compareSizes (a b : DecimalText) : Ordering :=
  match Ord.compare a.whole.length b.whole.length with
  | .eq =>
      match compareChars a.whole b.whole with
      | .eq => compareChars a.fraction b.fraction
      | order => order
  | order => order

/-- The order of the numbers at the start of two texts. -/
def compareDecimals (a b : List Char) : Ordering :=
  let x := decimalAt a
  let y := decimalAt b
  match x.negative, y.negative with
  | false, false => compareSizes x y
  | true, true => compareSizes y x
  | true, false => .lt
  | false, true => .gt

/-- The rank of the letter for a multiple after a number; it counts below zero for a negative number, and
a zero has none. -/
def multipleRank (text : List Char) : Int :=
  let (negative, body) := match text with
    | '-' :: rest => (true, rest)
    | _ => (false, text)
  let (digits, rest) := readDigits 10 body
  let (fraction, after) := match rest with
    | '.' :: more => readDigits 10 more
    | _ => ([], rest)
  if (digits ++ fraction).all (· == '0') then 0
  else
    match after with
    | c :: _ =>
        let rank : Nat :=
          ((["kK", "M", "G", "T", "P", "E", "Z", "Y"].findIdx?
            fun letters => letters.toList.contains c).map (· + 1)).getD 0
        if negative then -(rank : Int) else rank
    | [] => 0

/-- The order of numbers with letters for multiples. -/
def compareMultiples (a b : List Char) : Ordering :=
  match Ord.compare (multipleRank a) (multipleRank b) with
  | .eq => compareDecimals a b
  | order => order

/-- The order of two sizes that are multiples of powers of two. -/
def compareScaled (mantissa : Nat) (exponent : Int) (mantissa' : Nat) (exponent' : Int) : Ordering :=
  let least := min exponent exponent'
  Ord.compare (mantissa * Nat.pow 2 (exponent - least).toNat)
    (mantissa' * Nat.pow 2 (exponent' - least).toNat)

/-- The rank of a number among the kinds of numbers: undefined, undefined with a minus, negative infinite,
finite, infinite. -/
def kindRank : Option FloatValue → Nat
  | none => 0
  | some (.undefined false) => 1
  | some (.undefined true) => 2
  | some (.infinite true) => 3
  | some (.finite _ _ _) => 4
  | some (.infinite false) => 5

/-- The order of numbers in any notation; what is no number comes first. -/
def compareGeneral (a b : List Char) : Ordering :=
  let read (text : List Char) : Option FloatValue :=
    (FloatFormat.extended.read text).map (·.1.1)
  match read a, read b with
  | some (.finite n m e), some (.finite n' m' e') =>
      if m = 0 && m' = 0 then .eq
      else
        match n && m ≠ 0, n' && m' ≠ 0 with
        | false, false => compareScaled m e m' e'
        | true, true => compareScaled m' e' m e
        | true, false => .lt
        | false, true => .gt
  | x, y => Ord.compare (kindRank x) (kindRank y)

/-- The names of the months. -/
def monthNames : List String :=
  ["JAN", "FEB", "MAR", "APR", "MAY", "JUN", "JUL", "AUG", "SEP", "OCT", "NOV", "DEC"]

/-- The month that a text starts with, zero if none. -/
def monthOf (text : List Char) : Nat :=
  let start := ((text.dropWhile isFieldBlank).take 3).map Char.toUpper
  ((monthNames.findIdx? fun name => name.toList == start).map (· + 1)).getD 0

/-- The order of two stretches. -/
def compareStretches (k : SortKey) (a b : List Char) : Ordering :=
  let trim (text : List Char) : List Char := text.dropWhile isFieldBlank
  if k.numeric then compareDecimals (trim a) (trim b)
  else if k.general then compareGeneral a b
  else if k.human then compareMultiples (trim a) (trim b)
  else if k.month then Ord.compare (monthOf a) (monthOf b)
  else if k.version then compareVersions a b
  else compareChars a b

/-- The order of two lines by a key. -/
def compare (k : SortKey) (tab : Option Char) (a b : List Char) : Ordering :=
  let order := k.compareStretches (k.stretch tab a) (k.stretch tab b)
  if k.descends then order.swap else order

end SortKey

end JobShell.Machine.Utility
