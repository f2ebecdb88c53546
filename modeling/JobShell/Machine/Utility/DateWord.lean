/-
Module: JobShell.Machine.Utility.DateWord
Purpose: The words and numbers of which dates are made up, and how a text falls apart into them.
Main exports: TimeUnit, DateToken, DateToken.ofWord, DateToken.all
-/
import JobShell.Machine.Utility.Moments

namespace JobShell.Machine.Utility

/-- The units in which time is counted.  Years and months have no fixed length. -/
inductive TimeUnit where
  | year
  | month
  | day
  | hour
  | minute
  | second
deriving Repr, Inhabited, DecidableEq

/-- A piece of a date. -/
inductive DateToken where
  /-- Digits, how many there are, and whether the sign in front of them is a minus, if there is one. -/
  | number (negative : Option Bool) (value : Int) (digits : Nat)
  /-- A number with a fraction, in billionths, and whether it has a sign. -/
  | decimal (signed : Bool) (billionths : Int)
  /-- One of the two halves of a day. -/
  | half (afternoon : Bool)
  | month (number : Nat)
  /-- A day of the week; weeks start with day zero, a Sunday. -/
  | weekday (number : Nat)
  /-- A zone by its hours and minutes in minutes, and whether it stands for the summer time of the zone. -/
  | zone (minutes : Int) (summer : Bool)
  | summer
  | unit (unit : TimeUnit) (count : Int)
  /-- A day by its distance from this one. -/
  | shift (days : Int)
  | ordinal (number : Int)
  /-- Backwards or forwards. -/
  | direction (factor : Int)
  | mark (c : Char)
  | unknown
deriving Repr, Inhabited, DecidableEq

namespace DateToken

/-- The words for the halves of a day. -/
def halves : List (String × DateToken) :=
  [("AM", half false), ("A.M.", half false), ("PM", half true), ("P.M.", half true)]

/-- The names of months and of the days of the week. -/
def months : List (String × DateToken) :=
  [("JANUARY", month 1), ("FEBRUARY", month 2), ("MARCH", month 3), ("APRIL", month 4),
    ("MAY", month 5), ("JUNE", month 6), ("JULY", month 7), ("AUGUST", month 8),
    ("SEPTEMBER", month 9), ("SEPT", month 9), ("OCTOBER", month 10), ("NOVEMBER", month 11),
    ("DECEMBER", month 12), ("SUNDAY", weekday 0), ("MONDAY", weekday 1), ("TUESDAY", weekday 2),
    ("TUES", weekday 2), ("WEDNESDAY", weekday 3), ("WEDNES", weekday 3), ("THURSDAY", weekday 4),
    ("THUR", weekday 4), ("THURS", weekday 4), ("FRIDAY", weekday 5), ("SATURDAY", weekday 6)]

/-- The names of zones. -/
def zones : List (String × DateToken) :=
  let plain (hours : Int) := zone (hours * 60) false
  let summerOf (hours : Int) := zone (hours * 60) true
  [("GMT", plain 0), ("UT", plain 0), ("UTC", plain 0), ("WET", plain 0), ("WEST", summerOf 0),
    ("BST", summerOf 0), ("ART", plain (-3)), ("BRT", plain (-3)), ("BRST", summerOf (-3)),
    ("NST", zone (-210) false), ("NDT", zone (-210) true), ("AST", plain (-4)),
    ("ADT", summerOf (-4)), ("CLT", plain (-4)), ("CLST", summerOf (-4)), ("EST", plain (-5)),
    ("EDT", summerOf (-5)), ("CST", plain (-6)), ("CDT", summerOf (-6)), ("MST", plain (-7)),
    ("MDT", summerOf (-7)), ("PST", plain (-8)), ("PDT", summerOf (-8)), ("AKST", plain (-9)),
    ("AKDT", summerOf (-9)), ("HST", plain (-10)), ("HAST", plain (-10)), ("HADT", summerOf (-10)),
    ("SST", plain (-12)), ("WAT", plain 1), ("CET", plain 1), ("CEST", summerOf 1),
    ("MET", plain 1), ("MEZ", plain 1), ("MEST", summerOf 1), ("MESZ", summerOf 1),
    ("EET", plain 2), ("EEST", summerOf 2), ("CAT", plain 2), ("SAST", plain 2), ("EAT", plain 3),
    ("MSK", plain 3), ("MSD", summerOf 3), ("IST", zone 330 false), ("SGT", plain 8),
    ("KST", plain 9), ("JST", plain 9), ("GST", plain 10), ("NZST", plain 12), ("NZDT", summerOf 12)]

/-- The words for units of time. -/
def units : List (String × DateToken) :=
  [("YEAR", unit .year 1), ("MONTH", unit .month 1), ("FORTNIGHT", unit .day 14),
    ("WEEK", unit .day 7), ("DAY", unit .day 1), ("HOUR", unit .hour 1), ("MINUTE", unit .minute 1),
    ("MIN", unit .minute 1), ("SECOND", unit .second 1), ("SEC", unit .second 1)]

/-- The words for days near this one, for positions and for directions. -/
def relatives : List (String × DateToken) :=
  [("TOMORROW", shift 1), ("YESTERDAY", shift (-1)), ("TODAY", shift 0), ("NOW", shift 0),
    ("LAST", ordinal (-1)), ("THIS", ordinal 0), ("NEXT", ordinal 1), ("FIRST", ordinal 1),
    ("THIRD", ordinal 3), ("FOURTH", ordinal 4), ("FIFTH", ordinal 5), ("SIXTH", ordinal 6),
    ("SEVENTH", ordinal 7), ("EIGHTH", ordinal 8), ("NINTH", ordinal 9), ("TENTH", ordinal 10),
    ("ELEVENTH", ordinal 11), ("TWELFTH", ordinal 12), ("AGO", direction (-1)),
    ("HENCE", direction 1)]

/-- The zone of a single letter: the first half of the alphabet lies to the east, the second half to the
west.  Two letters are marks of their own. -/
def ofLetter (c : Char) : DateToken :=
  if c = 'J' || c = 'T' then mark c
  else if c = 'Z' then zone 0 false
  else
    let place : Int := c.toNat - 'A'.toNat + 1
    if place ≤ 9 then zone (place * 60) false
    else if place ≤ 13 then zone ((place - 1) * 60) false
    else zone ((13 - place) * 60) false

/-- The piece that a word in capitals stands for.  Months and days of the week may be cut down to three
letters and a full stop. -/
def ofWord (word : List Char) : DateToken :=
  let text := String.ofList word
  let isShort := word.length = 3 || (word.length = 4 && word.getLast? = some '.')
  let named : Option DateToken :=
    if isShort then
      (months.find? fun entry => entry.1.toList.take 3 == word.take 3).map (·.2)
    else months.lookup text
  let choices : List (Option DateToken) :=
    [halves.lookup text, named, zones.lookup text, if text = "DST" then some summer else none,
      units.lookup text,
      if word.getLast? = some 'S' then units.lookup (String.ofList word.dropLast) else none,
      relatives.lookup text,
      match word with
      | [c] => some (ofLetter c)
      | _ => none,
      if word.contains '.' then zones.lookup (String.ofList (word.filter (· != '.'))) else none]
  (choices.findSome? id).getD unknown

/-- The number that follows a sign, on if that is a minus.  What is cut off from a fraction makes the number
smaller. -/
def ofDigits (negative : Option Bool) (text : List Char) : DateToken × List Char :=
  let digits := text.takeWhile Char.isDigit
  let rest := text.drop digits.length
  let isMinus := negative == some true
  let size : Int := digitsValue 10 digits
  let value := if isMinus then -size else size
  let isTooLarge := value < -9223372036854775808 || 9223372036854775807 < value
  let fraction : List Char :=
    match rest with
    | '.' :: more | ',' :: more => more.takeWhile Char.isDigit
    | _ => []
  if isTooLarge then (unknown, [])
  else if fraction.isEmpty then (number negative value digits.length, rest)
  else
    let part : Int := digitsValue 10 ((fraction ++ List.replicate 9 '0').take 9)
    let excess : Int := if isMinus && (fraction.drop 9).any (· != '0') then 1 else 0
    let sum := value * nanosPerSecond + (if isMinus then -(part + excess) else part)
    (decimal negative.isSome sum, rest.drop (fraction.length + 1))

/-- What follows the parentheses at the start of a text, `depth` of which are open. -/
def skipRemark : Nat → List Char → List Char
  | _, [] => []
  | depth, '(' :: rest => skipRemark (depth + 1) rest
  | depth, ')' :: rest => if depth ≤ 1 then rest else skipRemark (depth - 1) rest
  | depth, _ :: rest => skipRemark depth rest

/-- The pieces of a text, at most so many. -/
def upTo : Nat → List Char → List DateToken
  | 0, _ => []
  | fuel + 1, text =>
      match text.dropWhile isBlankChar with
      | [] => []
      | c :: rest =>
          if c.isDigit then
            let (token, others) := ofDigits none (c :: rest)
            token :: upTo fuel others
          else if c = '-' || c = '+' then
            let after := rest.dropWhile isBlankChar
            if after.head?.any Char.isDigit then
              let (token, others) := ofDigits (some (c == '-')) after
              token :: upTo fuel others
            else upTo fuel after
          else if c.isAlpha then
            let word := (c :: rest).takeWhile fun d => d.isAlpha || d == '.'
            ofWord (word.map Char.toUpper) :: upTo fuel ((c :: rest).drop word.length)
          else if c = '(' then upTo fuel (skipRemark 0 (c :: rest))
          else mark c :: upTo fuel rest

/-- The pieces of a text. -/
def all (text : List Char) : List DateToken :=
  upTo (text.length + 1) text

end DateToken

end JobShell.Machine.Utility
