/-
Module: JobShell.Machine.Utility.DateText
Purpose: Dates in words: days, times of day, zones and distances from the present moment, in any order.
Main exports: DateReading, DateReading.takeItem, DateReading.moment?, readDate?
-/
import JobShell.Machine.Utility.DateWord

namespace JobShell.Machine.Utility

/-- A distance in time.  Years, months and days are counted on the calendar. -/
structure TimeShift where
  years : Int := 0
  months : Int := 0
  days : Int := 0
  nanos : Int := 0
deriving Repr, Inhabited, DecidableEq

namespace TimeShift

/-- So many of a unit. -/
def of (unit : TimeUnit) (count : Int) : TimeShift :=
  match unit with
  | .year => { years := count }
  | .month => { months := count }
  | .day => { days := count }
  | .hour => { nanos := count * 3600 * nanosPerSecond }
  | .minute => { nanos := count * 60 * nanosPerSecond }
  | .second => { nanos := count * nanosPerSecond }

/-- One distance after another one, which is taken so many times. -/
def add (a b : TimeShift) (factor : Int) : TimeShift :=
  { years := a.years + b.years * factor
    months := a.months + b.months * factor
    days := a.days + b.days * factor
    nanos := a.nanos + b.nanos * factor }

end TimeShift

/-- What has been read of a date.  Where nothing has been read, the present moment stands. -/
structure DateReading where
  year : Int
  yearDigits : Nat := 0
  month : Int
  day : Int
  hour : Int
  minute : Int
  /-- The seconds of the minute, in billionths. -/
  nanos : Int
  /-- The half of the day, if hours are counted twice round. -/
  afternoon : Option Bool := none
  weekday : Nat := 0
  weekdayOrdinal : Int := 0
  /-- The distance of the zone from Greenwich, in seconds. -/
  offset : Int := 0
  shift : TimeShift := {}
  isShifted : Bool := false
  dates : Nat := 0
  times : Nat := 0
  weekdays : Nat := 0
  zones : Nat := 0
  localZones : Nat := 0
deriving Repr, Inhabited, DecidableEq

namespace DateReading

/-- Nothing read yet, at a moment. -/
def start (now : Int) : DateReading :=
  let days := dayOf now
  let (year, month, day) := dateOf days
  let rest := now - days * (secondsPerDay * nanosPerSecond)
  let minute := 60 * nanosPerSecond
  { year, month, day
    hour := rest / (60 * minute)
    minute := rest / minute % 60
    nanos := rest % minute }

/-- A step in reading: what has been read and what follows. -/
abbrev Step := Option (DateReading × List DateToken)

/-- Takes in a day of a month. -/
def setDate (r : DateReading) (month day : Int) : DateReading :=
  { r with month, day, dates := r.dates + 1 }

/-- Takes in a day of a month of a year. -/
def setYear (r : DateReading) (year : Int) (digits : Nat) : DateReading :=
  { r with year, yearDigits := digits }

/-- Takes in a time of day. -/
def setTime (r : DateReading) (hour minute nanos : Int) (afternoon : Option Bool) : DateReading :=
  { r with hour, minute, nanos, afternoon, times := r.times + 1 }

/-- Takes in a day of the week. -/
def setWeekday (r : DateReading) (number : Nat) (ordinal : Int) : DateReading :=
  { r with weekday := number, weekdayOrdinal := ordinal, weekdays := r.weekdays + 1 }

/-- Takes in a zone by its distance from Greenwich in minutes. -/
def setZone (r : DateReading) (minutes : Int) : DateReading :=
  { r with offset := minutes * 60, zones := r.zones + 1 }

/-- Takes in a distance. -/
def apply (r : DateReading) (shift : TimeShift) (factor : Int) : DateReading :=
  { r with shift := r.shift.add shift factor, isShifted := true }

/-- Takes in a distance, after which a direction may stand. -/
def applyDirected (r : DateReading) (shift : TimeShift) : List DateToken → Step
  | .direction factor :: rest => some (r.apply shift factor, rest)
  | rest => some (r.apply shift 1, rest)

/-- The minutes of a distance from Greenwich: hours, or hours and minutes in one number or in two. -/
def zoneMinutes? (negative : Bool) (value : Int) (digits : Nat) (minutes : Option Int) : Option Int :=
  let total :=
    match minutes with
    | none =>
        let both := if digits ≤ 2 then value * 100 else value
        both.tdiv 100 * 60 + both.tmod 100
    | some m => value * 60 + (if negative then -m else m)
  if -1440 ≤ total && total ≤ 1440 then some total else none

/-- Takes in a distance from Greenwich on top of another one; the number is read already, and minutes may
follow. -/
def zoneAfter (r : DateReading) (base : Int) (negative : Bool) (value : Int) (digits : Nat) :
    List DateToken → Step
  | .mark ':' :: .number none minutes _ :: rest =>
      (zoneMinutes? negative value digits (some minutes)).map fun total =>
        (r.setZone (base + total), rest)
  | .mark ':' :: _ => none
  | rest =>
      (zoneMinutes? negative value digits none).map fun total => (r.setZone (base + total), rest)

/-- Takes in the distance from Greenwich that may follow a time of day. -/
def zoneIfAny (r : DateReading) : List DateToken → Step
  | .number (some negative) value digits :: rest => r.zoneAfter 0 negative value digits rest
  | rest => some (r, rest)

/-- Takes in what follows the minutes of a time of day, which may be one of the two halves of a day if
`halved` is on. -/
def timeAfter (r : DateReading) (halved : Bool) (hour minute nanos : Int) : List DateToken → Step
  | .half afternoon :: rest =>
      if halved then some (r.setTime hour minute nanos (some afternoon), rest) else none
  | rest => (r.setTime hour minute nanos none).zoneIfAny rest

/-- Takes in what follows the hour and the colon of a time of day. -/
def minutesAfter (r : DateReading) (halved : Bool) (hour : Int) : List DateToken → Step
  | .number none minute _ :: .mark ':' :: .number none second _ :: rest =>
      r.timeAfter halved hour minute (second * nanosPerSecond) rest
  | .number none minute _ :: .mark ':' :: .decimal false nanos :: rest =>
      r.timeAfter halved hour minute nanos rest
  | .number none _ _ :: .mark ':' :: _ => none
  | .number none minute _ :: rest => r.timeAfter halved hour minute 0 rest
  | _ => none

/-- Takes in the time of day that has to follow a day and its mark. -/
def timeOfDate (r : DateReading) : List DateToken → Step
  | .number none hour _ :: .mark ':' :: rest => r.minutesAfter false hour rest
  | .number none hour _ :: .number (some negative) value digits :: rest =>
      (r.setTime hour 0 0 none).zoneAfter 0 negative value digits rest
  | _ => none

/-- Takes in a number that stands alone: the year of a date, a date without marks, or a time of day. -/
def takeDigits (r : DateReading) (value : Int) (digits : Nat) : DateReading :=
  if 0 < r.dates && r.yearDigits = 0 && !r.isShifted && (0 < r.times || 2 < digits) then
    r.setYear value digits
  else if 4 < digits then
    (r.setYear (value / 10000) (digits - 4)).setDate (value / 100 % 100) (value % 100)
  else if digits ≤ 2 then r.setTime value 0 0 none
  else r.setTime (value / 100) (value % 100) 0 none

/-- Takes in what a number starts. -/
def takeNumber (r : DateReading) (value : Int) (digits : Nat) : List DateToken → Step
  | .half afternoon :: rest => some (r.setTime value 0 0 (some afternoon), rest)
  | .mark ':' :: rest => r.minutesAfter true value rest
  | .mark '/' :: .number none second _ :: .mark '/' :: .number none third places :: rest =>
      if 4 ≤ digits then some ((r.setYear value digits).setDate second third, rest)
      else some ((r.setYear third places).setDate value second, rest)
  | .mark '/' :: .number none _ _ :: .mark '/' :: _ => none
  | .mark '/' :: .number none second _ :: rest => some (r.setDate value second, rest)
  | .mark '/' :: _ => none
  | .month month :: .number (some _) year places :: rest =>
      some ((r.setYear (-year) places).setDate month value, rest)
  | .month month :: .number none year places :: rest =>
      some ((r.setYear year places).setDate month value, rest)
  | .month month :: rest => some (r.setDate month value, rest)
  | .weekday number :: rest => some (r.setWeekday number value, rest)
  | .unit unit count :: rest => r.applyDirected (TimeShift.of unit (value * count)) rest
  | .number (some _) month _ :: .number (some _) day _ :: .mark 'T' :: rest =>
      ((r.setYear value digits).setDate (-month) (-day)).timeOfDate rest
  | .number (some _) month _ :: .number (some _) day _ :: rest =>
      some ((r.setYear value digits).setDate (-month) (-day), rest)
  | .number (some _) distance _ :: .unit unit count :: rest =>
      some ((r.takeDigits value digits).apply (TimeShift.of unit (distance * count)) 1, rest)
  | .number (some negative) distance places :: rest =>
      (r.setTime value 0 0 none).zoneAfter 0 negative distance places rest
  | rest => some (r.takeDigits value digits, rest)

/-- Takes in what a month starts. -/
def takeMonth (r : DateReading) (month : Nat) : List DateToken → Step
  | .number (some _) day _ :: .number (some _) year places :: rest =>
      some ((r.setYear (-year) places).setDate month (-day), rest)
  | .number none day _ :: .mark ',' :: .number none year places :: rest =>
      some ((r.setYear year places).setDate month day, rest)
  | .number none _ _ :: .mark ',' :: _ => none
  | .number none day _ :: rest => some (r.setDate month day, rest)
  | _ => none

/-- Takes in what a zone starts. -/
def takeZone (r : DateReading) (minutes : Int) : List DateToken → Step
  | .summer :: rest => some (r.setZone (minutes + 60), rest)
  | .number (some _) distance _ :: .unit unit count :: rest =>
      some ((r.setZone minutes).apply (TimeShift.of unit (distance * count)) 1, rest)
  | .number (some negative) value digits :: rest => r.zoneAfter minutes negative value digits rest
  | rest => some (r.setZone minutes, rest)

/-- Takes in one item of a date. -/
def takeItem (r : DateReading) : List DateToken → Step
  | .number none value digits :: rest => r.takeNumber value digits rest
  | .number (some _) value _ :: .unit unit count :: rest =>
      r.applyDirected (TimeShift.of unit (value * count)) rest
  | .decimal _ nanos :: .unit .second _ :: rest => r.applyDirected { nanos } rest
  | .month month :: rest => r.takeMonth month rest
  | .weekday number :: .mark ',' :: rest => some (r.setWeekday number 0, rest)
  | .weekday number :: rest => some (r.setWeekday number 0, rest)
  | .ordinal number :: .weekday day :: rest => some (r.setWeekday day number, rest)
  | .ordinal number :: .unit unit count :: rest =>
      r.applyDirected (TimeShift.of unit (number * count)) rest
  | .unit unit count :: rest => r.applyDirected (TimeShift.of unit count) rest
  | .shift days :: rest => some (r.apply { days } 1, rest)
  | .zone minutes false :: rest => r.takeZone minutes rest
  | .zone minutes true :: rest => some (r.setZone (minutes + 60), rest)
  | .mark 'T' :: .number (some _) distance _ :: .unit unit count :: rest =>
      some ((r.setZone (-420)).apply (TimeShift.of unit (distance * count)) 1, rest)
  | .mark 'T' :: .number (some _) _ _ :: _ => none
  | .mark 'T' :: rest => some (r.setZone (-420), rest)
  | .mark 'J' :: rest => some ({ r with localZones := r.localZones + 1 }, rest)
  | _ => none

/-- Takes in item after item, at most so many. -/
def takeItems : Nat → DateReading → List DateToken → Option DateReading
  | _, r, [] => some r
  | 0, _, _ => none
  | fuel + 1, r, tokens => (r.takeItem tokens).bind fun (next, rest) => takeItems fuel next rest

/-!
## The moment of a date
-/

/-- Whether a number fits into thirty-two bits. -/
def isSmall (n : Int) : Bool :=
  -2147483648 ≤ n && n ≤ 2147483647

/-- The year that is meant: one of two digits belongs to this century or to the last one. -/
def fullYear (r : DateReading) : Int :=
  if r.year < 0 then -r.year
  else if r.yearDigits = 2 then (if r.year < 69 then 2000 + r.year else 1900 + r.year)
  else r.year

/-- The hour of the day, if there is such an hour. -/
def fullHour? (r : DateReading) : Option Int :=
  match r.afternoon with
  | none => if 0 ≤ r.hour && r.hour < 24 then some r.hour else none
  | some late =>
      if 0 < r.hour && r.hour ≤ 12 then some (r.hour % 12 + (if late then 12 else 0)) else none

/-- The nanoseconds since the start of the day, if there is such a time of day.  A date without a time of day
starts with its day. -/
def timeOfDay? (r : DateReading) : Option Int :=
  if 0 < r.times || (r.isShifted && r.dates = 0 && r.weekdays = 0) then
    r.fullHour?.bind fun hour =>
      if 0 ≤ r.minute && r.minute < 60 && 0 ≤ r.nanos && r.nanos < 60 * nanosPerSecond then
        some ((hour * 60 + r.minute) * 60 * nanosPerSecond + r.nanos)
      else none
  else some 0

/-- The day that is written, if there is such a day. -/
def writtenDay? (r : DateReading) : Option Int :=
  let year := r.fullYear
  if !isSmall (year - 1900) || r.month < 1 || 12 < r.month || r.day < 1 ||
      (monthLength year r.month.toNat : Int) < r.day then none
  else some (daysTo year r.month.toNat r.day.toNat)

/-- The day of the week that is meant, counted from a day on which it may fall itself, if it is not too far
away. -/
def weekdayFrom? (r : DateReading) (day : Int) : Option Int :=
  if r.weekdays = 0 || 0 < r.dates then some day
  else
    let today := (day + 4) % 7
    let weeks :=
      if 0 < r.weekdayOrdinal && today ≠ r.weekday then r.weekdayOrdinal - 1 else r.weekdayOrdinal
    let distance := ((r.weekday : Int) - today + 7) % 7 + weeks * 7
    if isSmall (r.day + distance) then some (day + distance) else none

/-- The day at the distance that is written. -/
def shiftedDay? (r : DateReading) (day : Int) : Option Int :=
  let (year, month, dayOfMonth) := dateOf day
  let s := r.shift
  let months : Int := month - 1 + s.months
  let total := year + s.years + Int.fdiv months 12
  if !isSmall (year - 1900) || !isSmall (year - 1900 + s.years) || !isSmall months ||
      !isSmall (dayOfMonth + s.days) || !isSmall (total - 1900) then none
  else some (daysTo total ((months % 12).toNat + 1) 1 + dayOfMonth - 1 + s.days)

/-- The moment that has been read, if there is one.  No kind of item may have come twice. -/
def moment? (r : DateReading) : Option Int :=
  if 1 < r.times || 1 < r.dates || 1 < r.weekdays || 1 < r.zones + r.localZones then none
  else
    r.timeOfDay?.bind fun time =>
      (r.writtenDay?.bind r.weekdayFrom?).bind fun day =>
        (r.shiftedDay? day).bind fun shifted =>
          let total := shifted * (secondsPerDay * nanosPerSecond) + time -
            r.offset * nanosPerSecond + r.shift.nanos
          let seconds := Int.fdiv total nanosPerSecond
          if -9223372036854775808 ≤ seconds && seconds ≤ 9223372036854775807 then some total else none

end DateReading

/-- What follows the name of a place at the start of a date. -/
def skipPlace (text : List Char) : List Char :=
  let trimmed := text.dropWhile isBlankChar
  if "TZ=\"".toList.isPrefixOf trimmed then
    let rest := trimmed.drop 4
    let name := rest.takeWhile (· != '"')
    if name.length < rest.length then (rest.drop (name.length + 1)).dropWhile isBlankChar else trimmed
  else trimmed

/-- The moment that a text in words gives, which may count from the present one.  An at sign stands before
seconds since the start of 1970. -/
def readDate? (now : Int) (text : List Char) : Option Int :=
  match skipPlace text with
  | [] => ((DateReading.start now).takeDigits 0 1).moment?
  | chars =>
      match DateToken.all chars with
      | [.mark '@', .number _ value _] => some (value * nanosPerSecond)
      | [.mark '@', .decimal _ nanos] => some nanos
      | tokens => (DateReading.takeItems tokens.length (DateReading.start now) tokens).bind (·.moment?)

end JobShell.Machine.Utility
