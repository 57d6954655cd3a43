/-!
# Instants

A point in time, in milliseconds since the first of January 1970, and its texts in the Gregorian
calendar at the prime meridian.  Days are counted from the first of March of a year that four
hundred divides, so that the leap day comes last.
-/

namespace LiteralLexer

/-- A point in time, in milliseconds. -/
structure Instant where
  milliseconds : Int
  deriving DecidableEq, Repr

namespace Instant

/-- The milliseconds of a day. -/
def dayLength : Int := 86400000

/-- The days from 1970 on of a day of a month, which counts from one. -/
def dayNumber (year month day : Int) : Int :=
  let shifted := if month ≤ 2 then year - 1 else year
  let era := Int.fdiv shifted 400
  let yearOfEra := shifted - era * 400
  let dayOfYear := Int.fdiv (153 * (if 2 < month then month - 3 else month + 9) + 2) 5 + day - 1
  let dayOfEra :=
    yearOfEra * 365 + Int.fdiv yearOfEra 4 - Int.fdiv yearOfEra 100 + dayOfYear
  era * 146097 + dayOfEra - 719468

/-- The year, the month and the day of a day's number. -/
def civil (number : Int) : Int × Int × Int :=
  let z := number + 719468
  let era := Int.fdiv z 146097
  let dayOfEra := z - era * 146097
  let yearOfEra := Int.fdiv
    (dayOfEra - Int.fdiv dayOfEra 1460 + Int.fdiv dayOfEra 36524 - Int.fdiv dayOfEra 146096) 365
  let dayOfYear :=
    dayOfEra - (365 * yearOfEra + Int.fdiv yearOfEra 4 - Int.fdiv yearOfEra 100)
  let shifted := Int.fdiv (5 * dayOfYear + 2) 153
  let day := dayOfYear - Int.fdiv (153 * shifted + 2) 5 + 1
  let month := if shifted < 10 then shifted + 3 else shifted - 9
  let year := yearOfEra + era * 400
  (if month ≤ 2 then year + 1 else year, month, day)

/-- The instant of a date and a time.  Months, days and smaller units may be out of range and are
then carried over; a year below one hundred is one of the twentieth century. -/
def ofDate (year month day hour minute second millisecond : Int) : Instant :=
  let year := if 0 ≤ year ∧ year ≤ 99 then 1900 + year else year
  let months := month - 1
  let first := dayNumber (year + Int.fdiv months 12) (Int.fmod months 12 + 1) 1
  ⟨(first + day - 1) * dayLength + ((hour * 60 + minute) * 60 + second) * 1000 + millisecond⟩

/-- A number with at least the given number of digits. -/
def padded (width : Nat) (n : Int) : String :=
  let digits := toString n.natAbs
  String.ofList (List.replicate (width - digits.length) '0') ++ digits

/-- The number of the day that the instant lies in. -/
def day (t : Instant) : Int := Int.fdiv t.milliseconds dayLength

/-- The time of the day, in milliseconds. -/
def time (t : Instant) : Int := Int.fmod t.milliseconds dayLength

/-- The hours, minutes and seconds of an instant. -/
def clock (t : Instant) : String :=
  let seconds := Int.fdiv t.time 1000
  padded 2 (Int.fdiv seconds 3600) ++ ":" ++ padded 2 (Int.fmod (Int.fdiv seconds 60) 60) ++ ":"
    ++ padded 2 (Int.fmod seconds 60)

/-- The standard text of an instant, to the millisecond. -/
def text (t : Instant) : String :=
  let (year, month, day) := civil t.day
  let yearText :=
    if 0 ≤ year ∧ year ≤ 9999 then padded 4 year
    else (if year < 0 then "-" else "+") ++ padded 6 year
  yearText ++ "-" ++ padded 2 month ++ "-" ++ padded 2 day ++ "T" ++ t.clock ++ "."
    ++ padded 3 (Int.fmod t.time 1000) ++ "Z"

/-- The names of the days of the week, from that of the first day of 1970 on. -/
def weekdays : List String := ["Thu", "Fri", "Sat", "Sun", "Mon", "Tue", "Wed"]

/-- The names of the months. -/
def months : List String :=
  ["Jan", "Feb", "Mar", "Apr", "May", "Jun", "Jul", "Aug", "Sep", "Oct", "Nov", "Dec"]

/-- The text of an instant in words. -/
def longText (t : Instant) : String :=
  let (year, month, day) := civil t.day
  weekdays.getD (Int.fmod t.day 7).toNat "" ++ " " ++ months.getD (month - 1).toNat "" ++ " "
    ++ padded 2 day ++ " " ++ (if year < 0 then "-" ++ padded 6 year else padded 4 year) ++ " "
    ++ t.clock ++ " GMT+0000 (Coordinated Universal Time)"

end Instant

end LiteralLexer
