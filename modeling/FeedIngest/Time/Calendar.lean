/-!
# Calendar

Dates of the proleptic Gregorian calendar and their day numbers, which count from
1970-01-01. Years are counted from March inside the conversions, so that the day a leap year
adds is the last of its year.
-/

set_option autoImplicit false

namespace FeedIngest.Time

/-- A year, a month from 1 to 12 and a day of the month from 1 on. -/
structure Date where
  year : Int
  month : Nat
  day : Nat
deriving DecidableEq, Repr

def isLeapYear (year : Int) : Bool :=
  year % 4 == 0 && (year % 100 != 0 || year % 400 == 0)

/-- The length of a month; zero for a month out of range. -/
def daysInMonth (year : Int) (month : Nat) : Nat :=
  match month with
  | 1 | 3 | 5 | 7 | 8 | 10 | 12 => 31
  | 4 | 6 | 9 | 11 => 30
  | 2 => if isLeapYear year then 29 else 28
  | _ => 0

namespace Date

def isValid (d : Date) : Bool := 1 ≤ d.day && d.day ≤ daysInMonth d.year d.month

/-- Days before a month of the year that begins in March; the first month is number zero. -/
def daysBefore (marchMonth : Nat) : Nat := (153 * marchMonth + 2) / 5

def dayNumber (d : Date) : Int :=
  let year : Int := if d.month ≤ 2 then d.year - 1 else d.year
  let month := (d.month + 9) % 12
  365 * year + year / 4 - year / 100 + year / 400 + (daysBefore month + d.day - 1 : Nat) - 719468

def ofDayNumber (n : Int) : Date :=
  let shifted := n + 719468
  let era := shifted / 146097
  let dayOfEra := (shifted % 146097).toNat
  let century := min 3 (dayOfEra / 36524)
  let dayOfCentury := dayOfEra - century * 36524
  let cycle := dayOfCentury / 1461
  let dayOfCycle := dayOfCentury - cycle * 1461
  let yearOfCycle := min 3 (dayOfCycle / 365)
  let dayOfYear := dayOfCycle - yearOfCycle * 365
  let month := (5 * dayOfYear + 2) / 153
  let year : Int := 400 * era + (100 * century + 4 * cycle + yearOfCycle : Nat)
  if month < 10 then ⟨year, month + 3, dayOfYear - daysBefore month + 1⟩
  else ⟨year + 1, month - 9, dayOfYear - daysBefore month + 1⟩

end Date

def weekday (dayNumber : Int) : Nat := ((dayNumber + 3) % 7).toNat

end FeedIngest.Time
