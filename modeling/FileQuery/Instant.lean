/-!
# Days and instants

Points in time, and the calendar that they are written by.
-/

/-!
## Calendar

The Gregorian calendar, extended to all years. Days are counted from the first of January of the
year 1, and a cycle of 400 years has the same days each time.
-/

namespace FileQuery

/-- A day of the calendar. -/
structure Date where
  year : Int
  month : Nat
  day : Nat
  deriving DecidableEq, Repr

namespace Calendar

/-- Whether a year has a 29th of February. -/
def isLeap (year : Int) : Bool :=
  year.emod 4 == 0 && (year.emod 100 != 0 || year.emod 400 == 0)

/-- The lengths of the months of a year. -/
def monthLengths (leap : Bool) : List Nat :=
  [31, if leap then 29 else 28, 31, 30, 31, 30, 31, 31, 30, 31, 30, 31]

/-- The number of days of the months before a month. -/
def daysBeforeMonth (leap : Bool) (month : Nat) : Nat :=
  ((monthLengths leap).take (month - 1)).foldl (· + ·) 0

/-- The number of days from the year 1 to the start of a year. -/
def daysBeforeYear (year : Int) : Int :=
  let past := year - 1
  365 * past + past.ediv 4 - past.ediv 100 + past.ediv 400

/-- The years for which days are counted. -/
def supportedYear (year : Int) : Bool := -262143 ≤ year && year ≤ 262142

/-- Whether a date exists. -/
def exists? (date : Date) : Bool :=
  supportedYear date.year &&
    match date.month with
    | 0 => false
    | index + 1 =>
      match (monthLengths (isLeap date.year))[index]? with
      | some length => 1 ≤ date.day && date.day ≤ length
      | none => false

/-- The number of a day. -/
def dayNumber (date : Date) : Int :=
  daysBeforeYear date.year + daysBeforeMonth (isLeap date.year) date.month + date.day - 1

/-- The month and the day of the month of a day of a year, counted from zero. The months that
    remain and their number are given. -/
def monthAndDay : Nat → List Nat → Nat → Nat × Nat
  | month, [], rest => (month, rest + 1)
  | month, length :: later, rest =>
    if rest < length then (month, rest + 1) else monthAndDay (month + 1) later (rest - length)

/-- The date of a numbered day. Within a cycle the first three centuries, the four-year periods
    of a century and the first three years of a period have equal lengths, and the last ones take
    what is left. -/
def date (number : Int) : Date :=
  let cycle := number.ediv 146097
  let inCycle := (number.emod 146097).toNat
  let century := min 3 (inCycle / 36524)
  let inCentury := inCycle - century * 36524
  let period := inCentury / 1461
  let inPeriod := inCentury % 1461
  let yearOfPeriod := min 3 (inPeriod / 365)
  let dayOfYear := inPeriod - yearOfPeriod * 365
  let year := cycle * 400 + (century * 100 + period * 4 + yearOfPeriod : Nat) + 1
  let (month, day) := monthAndDay 1 (monthLengths (isLeap year)) dayOfYear
  ⟨year, month, day⟩

end Calendar

end FileQuery

/-!
## Instants

A point in time, counted in seconds from the start of 1970 in UTC, with nanoseconds on top. A leap
second continues the second before it: its nanoseconds count on from a thousand million.
-/

namespace FileQuery

/-- A point in time. -/
structure Instant where
  seconds : Int
  nanoseconds : Nat
  deriving DecidableEq, Repr

namespace Instant

/-- The start of 1970. -/
def epoch : Instant := ⟨0, 0⟩

/-- The number of the first day of 1970. -/
def epochDay : Int := 719162

/-- The order of time. -/
def compare (first second : Instant) : Ordering :=
  (Ord.compare first.seconds second.seconds).then
    (Ord.compare first.nanoseconds second.nanoseconds)

/-- The instant of a time of day. -/
def ofDate (date : Date) (hour minute second : Nat) (nanoseconds : Nat) : Instant :=
  ⟨(Calendar.dayNumber date - epochDay) * 86400 + (hour * 3600 + minute * 60 + second : Nat),
    nanoseconds⟩

/-- A number with leading zeros up to a width. -/
def padded (width number : Nat) : String :=
  let digits := toString number
  String.ofList (List.replicate (width - digits.length) '0') ++ digits

/-- The written form of a year: four digits from 0 to 9999, and a sign before them otherwise. -/
def yearText (year : Int) : String :=
  if 0 ≤ year ∧ year ≤ 9999 then padded 4 year.toNat
  else (if year < 0 then "-" else "+") ++ padded 4 year.natAbs

/-- The written form of a fraction of a second: three, six or nine digits, or nothing. -/
def fractionText (nanoseconds : Nat) : String :=
  if nanoseconds = 0 then ""
  else if nanoseconds % 1000000 = 0 then "." ++ padded 3 (nanoseconds / 1000000)
  else if nanoseconds % 1000 = 0 then "." ++ padded 6 (nanoseconds / 1000)
  else "." ++ padded 9 nanoseconds

/-- The written form of an instant, as RFC 3339 has it, in UTC. -/
def text (instant : Instant) : String :=
  let date := Calendar.date (instant.seconds.ediv 86400 + epochDay)
  let inDay := (instant.seconds.emod 86400).toNat
  let leap := 1000000000 ≤ instant.nanoseconds
  let second := inDay % 60 + if leap then 1 else 0
  let fraction := instant.nanoseconds - if leap then 1000000000 else 0
  yearText date.year ++ "-" ++ padded 2 date.month ++ "-" ++ padded 2 date.day ++ "T" ++
    padded 2 (inDay / 3600) ++ ":" ++ padded 2 (inDay / 60 % 60) ++ ":" ++ padded 2 second ++
    fractionText fraction ++ "+00:00"

end Instant

end FileQuery
