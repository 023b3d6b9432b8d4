import ElementQuery.Number.Numeral

/-!
# Dates and times of day

Seconds since the start of 1970 in universal time as a date and a time of day, and such moments as
text. In a pattern a percent sign and a letter stand for a part of the moment.

## Main definitions

* `Moment` : a date and a time of day.
* `Moment.ofSeconds` : the moment of a count of seconds.
* `Moment.format` : a moment as a pattern says.
-/

namespace ElementQuery.Log

/-- A date and a time of day. -/
structure Moment where
  /-- The seconds since the start of 1970. -/
  seconds : Int
  year : Int
  /-- The month, from 1. -/
  month : Nat
  /-- The day of the month, from 1. -/
  day : Nat
  hour : Nat
  minute : Nat
  second : Nat
  /-- The day of the week, Sunday being 0. -/
  weekday : Nat
  /-- The day of the year, from 0. -/
  yearDay : Nat

/-- Whether a year has a leap day. -/
def isLeapYear (year : Int) : Bool :=
  year % 4 == 0 && (year % 100 != 0 || year % 400 == 0)

/-- The days of a year before each of its months. -/
def daysBeforeMonths (year : Int) : List Nat :=
  let leap := if isLeapYear year then 1 else 0
  [0, 31, 59 + leap, 90 + leap, 120 + leap, 151 + leap, 181 + leap, 212 + leap, 243 + leap,
    273 + leap, 304 + leap, 334 + leap]

/-- The days from the start of 1970 to the start of a year. -/
def daysBeforeYear (year : Int) : Int :=
  let past := year - 1
  365 * (year - 1970) + (past.fdiv 4 - past.fdiv 100 + past.fdiv 400) - 477

/-- The year that a day is in, counted from the start of 1970. The mean length of a year gives a
guess that is at most one year off. -/
def yearOfDay (day : Int) : Int :=
  let guess := 1970 + (400 * day).fdiv 146097
  if day < daysBeforeYear guess then guess - 1
  else if daysBeforeYear (guess + 1) ≤ day then guess + 1
  else guess

/-- The moment of a count of seconds since the start of 1970. -/
def Moment.ofSeconds (seconds : Int) : Moment :=
  let days := seconds.fdiv 86400
  let time := (seconds - 86400 * days).toNat
  let year := yearOfDay days
  let yearDay := (days - daysBeforeYear year).toNat
  let before := (daysBeforeMonths year).takeWhile (· ≤ yearDay)
  { seconds := seconds
    year := year
    month := before.length
    day := yearDay - before.getLastD 0 + 1
    hour := time / 3600
    minute := time / 60 % 60
    second := time % 60
    weekday := ((days + 4).emod 7).toNat
    yearDay := yearDay }

namespace Moment

/-- The names of the days of the week. -/
def dayNames : List String :=
  ["Sunday", "Monday", "Tuesday", "Wednesday", "Thursday", "Friday", "Saturday"]

/-- The names of the months. -/
def monthNames : List String :=
  ["January", "February", "March", "April", "May", "June", "July", "August", "September",
    "October", "November", "December"]

/-- The name of the day of the week. -/
def dayName (m : Moment) : String := dayNames.getD m.weekday ""

/-- The name of the month. -/
def monthName (m : Moment) : String := monthNames.getD (m.month - 1) ""

/-- The first three letters of a name. -/
def short (name : String) : String := String.ofList (name.toList.take 3)

/-- The hour on a clock of twelve hours. -/
def clockHour (m : Moment) : Nat := (m.hour + 11) % 12 + 1

/-- The day of the week, Monday being 0. -/
def weekdayFromMonday (m : Moment) : Nat := (m.weekday + 6) % 7

/-- The year and the number of the week by the rule that weeks start on Monday and belong to the
year of their Thursday. -/
def isoWeek (m : Moment) : Int × Nat :=
  let thursday : Int := m.yearDay - m.weekdayFromMonday + 3
  let length (year : Int) : Int := if isLeapYear year then 366 else 365
  if thursday < 0 then (m.year - 1, ((thursday + length (m.year - 1)) / 7 + 1).toNat)
  else if length m.year ≤ thursday then (m.year + 1, 1)
  else (m.year, (thursday / 7 + 1).toNat)

/-- A number filled up to a width. -/
def padded (fill : Char) (width : Nat) (n : Int) : String :=
  let digits := Nat.toDigits 10 n.natAbs
  let sign := if n < 0 then ['-'] else []
  String.ofList (sign ++ List.replicate (width - digits.length - sign.length) fill ++ digits)

/-- A number of two digits. -/
def two (n : Int) : String := padded '0' 2 n

/-- The time of day. -/
def clock (m : Moment) : String := two m.hour ++ ":" ++ two m.minute ++ ":" ++ two m.second

/-- The date as month, day and year, two digits each. -/
def slashDate (m : Moment) : String := two m.month ++ "/" ++ two m.day ++ "/" ++ two (m.year % 100)

/-- Whether it is before or after noon. -/
def noonMark (m : Moment) : String := if m.hour < 12 then "AM" else "PM"

/-- What a letter stands for in a pattern. -/
def part? (m : Moment) : Char → Option String
  | 'Y' => some (toString m.year)
  | 'm' => some (two m.month)
  | 'd' => some (two m.day)
  | 'H' => some (two m.hour)
  | 'M' => some (two m.minute)
  | 'S' => some (two m.second)
  | 'y' => some (two (m.year % 100))
  | 'C' => some (toString (m.year.fdiv 100))
  | 'j' => some (padded '0' 3 (m.yearDay + 1))
  | 'e' => some (padded ' ' 2 m.day)
  | 'I' => some (two m.clockHour)
  | 'k' => some (padded ' ' 2 m.hour)
  | 'l' => some (padded ' ' 2 m.clockHour)
  | 'p' => some m.noonMark
  | 'P' => some (m.noonMark.map Char.toLower)
  | 'a' => some (short m.dayName)
  | 'A' => some m.dayName
  | 'b' | 'h' => some (short m.monthName)
  | 'B' => some m.monthName
  | 'u' => some (toString (m.weekdayFromMonday + 1))
  | 'w' => some (toString m.weekday)
  | 'U' => some (two ((m.yearDay + 7 - m.weekday) / 7 : Nat))
  | 'W' => some (two ((m.yearDay + 7 - m.weekdayFromMonday) / 7 : Nat))
  | 'V' => some (two m.isoWeek.2)
  | 'G' => some (toString m.isoWeek.1)
  | 'g' => some (two (m.isoWeek.1 % 100))
  | 's' => some (toString m.seconds)
  | 'D' | 'x' => some m.slashDate
  | 'F' => some (toString m.year ++ "-" ++ two m.month ++ "-" ++ two m.day)
  | 'R' => some (two m.hour ++ ":" ++ two m.minute)
  | 'T' | 'X' => some m.clock
  | 'r' =>
    some (two m.clockHour ++ ":" ++ two m.minute ++ ":" ++ two m.second ++ " " ++ m.noonMark)
  | 'c' =>
    some (short m.dayName ++ " " ++ short m.monthName ++ " " ++ padded ' ' 2 m.day ++ " "
      ++ m.clock ++ " " ++ toString m.year)
  | 'Z' => some "UTC"
  | 'z' => some "+0000"
  | 'n' => some "\n"
  | 't' => some "\t"
  | '%' => some "%"
  | _ => none

/-- The characters of a moment as a pattern says. What stands for nothing is left as it is. -/
def formatChars (m : Moment) : List Char → List Char
  | '%' :: c :: rest =>
    match m.part? c with
    | some part => part.toList ++ formatChars m rest
    | none => '%' :: c :: formatChars m rest
  | c :: rest => c :: formatChars m rest
  | [] => []

/-- A moment as a pattern says. -/
def format (m : Moment) (pattern : String) : String :=
  String.ofList (m.formatChars pattern.toList)

end Moment

end ElementQuery.Log
