import FeedIngest.Time.MailDate

/-!
# Loosely written dates

Dates as people write them in Atom documents. The forms of the standards come first; then a
list of patterns is tried in order. A pattern that names no zone means universal time, and
one that names no time of day means midnight.
-/

set_option autoImplicit false

namespace FeedIngest.Time.LooseDate

open Text
open Rfc3339 (number?)

inductive Part where
  | char (c : Char)
  | blanks
  | year
  | month
  | day
  | hour
  | minute
  | second
  | shortMonth
  | monthName
  | weekday
  | offset
deriving DecidableEq, Repr

structure Reading where
  year : Int := 0
  month : Nat := 0
  day : Nat := 0
  hour : Nat := 0
  minute : Nat := 0
  second : Nat := 0
  weekday : Option Nat := none
  offset : Int := 0
deriving DecidableEq, Repr

def monthTails : List String :=
  ["uary", "ruary", "ch", "il", "", "e", "y", "ust", "tember", "ober", "ember", "ember"]

def monthName? (cs : List Char) : Option (Nat × List Char) := do
  let (month, cs) ← MailDate.shortName? MailDate.monthNames cs
  let tail := (monthTails.getD month "").toList
  if (cs.take tail.length).map asciiLower = tail then some (month, cs.drop tail.length)
  else some (month, cs)

/-- Reads an offset whose hours and minutes may be parted by colons and blanks. -/
def offset? (cs : List Char) : Option (Int × List Char) :=
  Rfc3339.offset? true (fun cs => some (cs.dropWhile fun c => c == ':' || isBlank c))
    (trimStart cs)

/-- Reads one part. Numbers may follow blanks. -/
def Part.read? (r : Reading) (cs : List Char) : Part → Option (Reading × List Char)
  | .char c => (Rfc3339.char? c cs).map fun cs => (r, cs)
  | .blanks => some (r, trimStart cs)
  | .year => (Rfc3339.year? (trimStart cs)).map fun (n, cs) => ({ r with year := n }, cs)
  | .month => (Rfc3339.short? cs).map fun (n, cs) => ({ r with month := n }, cs)
  | .day => (Rfc3339.short? cs).map fun (n, cs) => ({ r with day := n }, cs)
  | .hour => (Rfc3339.short? cs).map fun (n, cs) => ({ r with hour := n }, cs)
  | .minute => (Rfc3339.short? cs).map fun (n, cs) => ({ r with minute := n }, cs)
  | .second => (Rfc3339.short? cs).map fun (n, cs) => ({ r with second := n }, cs)
  | .shortMonth =>
    (MailDate.shortName? MailDate.monthNames cs).map fun (n, cs) => ({ r with month := n + 1 }, cs)
  | .monthName => (monthName? cs).map fun (n, cs) => ({ r with month := n + 1 }, cs)
  | .weekday =>
    (MailDate.shortName? MailDate.weekdayNames cs).map fun (n, cs) =>
      ({ r with weekday := some n }, cs)
  | .offset => (offset? cs).map fun (n, cs) => ({ r with offset := n }, cs)

/-- Reads the parts of a pattern in order, with nothing after them. -/
def readAll? (r : Reading) (cs : List Char) : List Part → Option Reading
  | [] => if cs.isEmpty then some r else none
  | part :: parts => (part.read? r cs).bind fun (r, cs) => readAll? r cs parts

/-- The moment of a reading. A weekday has to be the one of the date. -/
def Reading.timestamp? (r : Reading) : Option Timestamp :=
  let date : Date := ⟨r.year, r.month, r.day⟩
  if r.weekday.all (· == Time.weekday date.dayNumber) then
    Timestamp.ofClock? ⟨date, r.hour, r.minute, r.second, 0, r.offset⟩
  else none

def match? (pattern : List Part) (cs : List Char) : Option Timestamp :=
  (readAll? {} cs pattern).bind Reading.timestamp?

def dashed : List Part := [.year, .char '-', .month, .char '-', .day]

def clock : List Part := [.hour, .char ':', .minute, .char ':', .second]

def named : List Part := [.day, .blanks, .shortMonth, .blanks, .year]

def onWeekday : List Part := [.weekday, .char ',', .blanks]

def patterns : List (List Part) :=
  [ dashed ++ [.blanks] ++ clock ++ [.blanks, .offset],
    onWeekday ++ named ++ [.blanks] ++ clock,
    onWeekday ++ named ++ [.blanks, .hour, .char ':', .minute],
    named ++ [.blanks] ++ clock,
    named ++ [.blanks, .hour, .char ':', .minute],
    named ++ [.blanks, .hour],
    onWeekday ++ named,
    named,
    [.monthName, .blanks, .day, .blanks, .year],
    [.monthName, .blanks, .day, .char ',', .blanks, .year],
    [.month, .char '/', .day, .char '/', .year],
    [.day, .char '.', .month, .char '.', .year] ]

def leading : List (Nat × List Part) :=
  [ (19, dashed ++ [.char 'T'] ++ clock),
    (19, dashed ++ [.blanks] ++ clock),
    (16, dashed ++ [.char 'T', .hour, .char ':', .minute]),
    (16, dashed ++ [.blanks, .hour, .char ':', .minute]),
    (10, dashed) ]

/-- The first bytes of a text, unless it is too short or a character is cut in two. -/
def head? (bytes : Nat) (cs : List Char) : Option (List Char) :=
  match cs with
  | [] => if bytes = 0 then some [] else none
  | c :: cs =>
    if bytes = 0 then some []
    else if bytes < c.utf8Size then none
    else (head? (bytes - c.utf8Size) cs).map (c :: ·)

def parse? (cs : List Char) : Option Timestamp :=
  let cs := trim cs
  (Rfc3339.parse? cs).or <| (MailDate.parse? cs).or <|
    (patterns.findSome? fun pattern => match? pattern cs).or <|
    leading.findSome? fun (bytes, pattern) => (head? bytes cs).bind (match? pattern)

end FeedIngest.Time.LooseDate
