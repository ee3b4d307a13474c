import FeedIngest.Text.Blank
import FeedIngest.Time.Calendar

/-!
# Timestamps

A moment of universal time to the nanosecond. A leap second is kept as the second before it
with a nanosecond count of a full second and more.
-/

set_option autoImplicit false

namespace FeedIngest.Time

def firstYear : Int := -262143

def lastYear : Int := 262142

/-- The first second of the first year, counted from 1970. -/
def firstSecond : Int := -8334601228800

/-- The last second of the last year, counted from 1970. -/
def lastSecond : Int := 8210266876799

structure Timestamp where
  /-- Seconds since 1970-01-01, leap seconds not counted. -/
  seconds : Int
  /-- Nanoseconds into the second; from a full second on in a leap second. -/
  nanos : Nat
  first_le : firstSecond ≤ seconds
  le_last : seconds ≤ lastSecond
  nanos_lt : nanos < 2000000000
  leap : 1000000000 ≤ nanos → seconds % 60 = 59
deriving DecidableEq, Repr

/-- A wall clock reading with its distance from universal time. -/
structure ClockReading where
  date : Date
  hour : Nat
  minute : Nat
  /-- Up to 60; sixty is a leap second. -/
  second : Nat
  nanos : Nat
  offset : Int
deriving DecidableEq, Repr

namespace Timestamp

def epoch : Timestamp := ⟨0, 0, by decide, by decide, by decide, by decide⟩

instance : Inhabited Timestamp := ⟨epoch⟩

/-- The moment of a number of seconds and nanoseconds, if it is one. -/
def of? (seconds : Int) (nanos : Nat) : Option Timestamp :=
  if h : firstSecond ≤ seconds ∧ seconds ≤ lastSecond ∧ nanos < 2000000000 ∧
      (1000000000 ≤ nanos → seconds % 60 = 59) then
    some ⟨seconds, nanos, h.1, h.2.1, h.2.2.1, h.2.2.2⟩
  else none

/-- The moment that a clock shows. The date must exist, the clock must show a time of day,
and its offset must be less than a day. -/
def ofClock? (r : ClockReading) : Option Timestamp :=
  if r.date.isValid && firstYear ≤ r.date.year && r.date.year ≤ lastYear &&
      r.hour < 24 && r.minute < 60 && r.second ≤ 60 && r.nanos < 1000000000 &&
      r.offset.natAbs < 86400 then
    let (second, nanos) := if r.second = 60 then (59, r.nanos + 1000000000) else (r.second, r.nanos)
    let ofDay : Nat := r.hour * 3600 + r.minute * 60 + second
    of? (r.date.dayNumber * 86400 + ofDay - r.offset) nanos
  else none

def toClock (t : Timestamp) : ClockReading :=
  let ofDay := (t.seconds % 86400).toNat
  let isLeap := 1000000000 ≤ t.nanos
  { date := Date.ofDayNumber (t.seconds / 86400)
    hour := ofDay / 3600
    minute := ofDay / 60 % 60
    second := if isLeap then 60 else ofDay % 60
    nanos := if isLeap then t.nanos - 1000000000 else t.nanos
    offset := 0 }

end Timestamp

end FeedIngest.Time
