/-
Module: JobShell.Machine.Utility.Moments
Purpose: Days and moments in time, in nanoseconds since the start of 1970, and moments written as stamps.
Main exports: daysTo, dateOf, momentOf?, readStamp?
-/
import JobShell.Machine.Utility.Numeral

namespace JobShell.Machine.Utility

/-- The nanoseconds of a second. -/
def nanosPerSecond : Int := 1000000000

/-- The seconds of a day. -/
def secondsPerDay : Int := 86400

/-- Whether a year has a leap day. -/
def isLeapYear (year : Int) : Bool :=
  year % 4 == 0 && (year % 100 != 0 || year % 400 == 0)

/-- The number of days of a month. -/
def monthLength (year : Int) (month : Nat) : Nat :=
  match month with
  | 2 => if isLeapYear year then 29 else 28
  | 4 | 6 | 9 | 11 => 30
  | _ => 31

/-- The days from the start of 1970 to a date.  Years are counted from March, so that a leap day is the
last day of its year. -/
def daysTo (year : Int) (month day : Nat) : Int :=
  let y := if month ≤ 2 then year - 1 else year
  let era := Int.fdiv y 400
  let yearOfEra := y - era * 400
  let monthFromMarch : Int := ((month : Int) + 9) % 12
  let dayOfYear := (153 * monthFromMarch + 2) / 5 + day - 1
  era * 146097 + yearOfEra * 365 + yearOfEra / 4 - yearOfEra / 100 + dayOfYear - 719468

/-- The moment of a date and a time of day, if there is such a date and time. -/
def momentOf? (year : Int) (month day hour minute second : Nat) : Option Int :=
  if month < 1 || 12 < month || day < 1 || monthLength year month < day || 23 < hour || 59 < minute ||
      60 < second then none
  else
    some ((daysTo year month day * secondsPerDay + (hour * 3600 + minute * 60 + second : Nat)) *
      nanosPerSecond)

/-- The year, month and day of a number of days since the start of 1970. -/
def dateOf (days : Int) : Int × Nat × Nat :=
  let shifted := days + 719468
  let era := Int.fdiv shifted 146097
  let dayOfEra := shifted - era * 146097
  let yearOfEra := (dayOfEra - dayOfEra / 1460 + dayOfEra / 36524 - dayOfEra / 146096) / 365
  let dayOfYear := dayOfEra - (365 * yearOfEra + yearOfEra / 4 - yearOfEra / 100)
  let monthFromMarch := (5 * dayOfYear + 2) / 153
  let day := dayOfYear - (153 * monthFromMarch + 2) / 5 + 1
  let month := if monthFromMarch < 10 then monthFromMarch + 3 else monthFromMarch - 9
  (yearOfEra + era * 400 + (if month ≤ 2 then 1 else 0), month.toNat, day.toNat)

/-- The number of days since the start of 1970 at a moment. -/
def dayOf (moment : Int) : Int :=
  Int.fdiv moment (secondsPerDay * nanosPerSecond)

/-- The year of a moment. -/
def yearOf (moment : Int) : Int :=
  (dateOf (dayOf moment)).1

/-- A text as numbers of two digits each. -/
def pairsOf : List Char → Option (List Nat)
  | [] => some []
  | a :: b :: rest =>
      if a.isDigit && b.isDigit then (pairsOf rest).map (digitsValue 10 [a, b] :: ·) else none
  | _ => none

/-- The year that the last two digits of a year stand for. -/
def fullYear (short : Nat) : Int :=
  if short < 69 then 2000 + short else 1900 + short

/-- The moment of a stamp: a year, which may be left out or cut to two digits, and then month, day, hour
and minute with two digits each; seconds may follow a point. -/
def readStamp? (now : Int) (text : List Char) : Option Int :=
  let front := text.takeWhile (· != '.')
  let seconds : Option Nat :=
    match text.drop front.length with
    | [] => some 0
    | ['.', a, b] => if a.isDigit && b.isDigit then some (digitsValue 10 [a, b]) else none
    | _ => none
  match seconds, pairsOf front with
  | some second, some [month, day, hour, minute] =>
      momentOf? (yearOf now) month day hour minute second
  | some second, some [short, month, day, hour, minute] =>
      momentOf? (fullYear short) month day hour minute second
  | some second, some [century, short, month, day, hour, minute] =>
      momentOf? (century * 100 + short : Nat) month day hour minute second
  | _, _ => none

end JobShell.Machine.Utility
