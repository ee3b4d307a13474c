import FeedIngest.Time.Rfc3339

/-!
# Dates of mail headers

The form `Mon, 21 Oct 2024 07:28:00 GMT` of RFC 2822 with its obsolete variants: the weekday
and the seconds may be missing, years may have two or three digits, zones may be named, and
comments in parentheses may follow.
-/

set_option autoImplicit false

namespace FeedIngest.Time.MailDate

open Text
open Rfc3339 (number? char? twoDigits? offset?)

def monthNames : List String :=
  ["jan", "feb", "mar", "apr", "may", "jun", "jul", "aug", "sep", "oct", "nov", "dec"]

def weekdayNames : List String := ["mon", "tue", "wed", "thu", "fri", "sat", "sun"]

/-- Reads three letters of any case as one of the names; gives its position. -/
def shortName? (names : List String) (cs : List Char) : Option (Nat × List Char) :=
  (names.findIdx? (·.toList == (cs.take 3).map asciiLower)).map fun i => (i, cs.drop 3)

def blanks? (cs : List Char) : Option (List Char) :=
  match cs with
  | c :: _ => if isBlank c then some (trimStart cs) else none
  | [] => none

def zoneHours? (name : List Char) : Option Nat :=
  match String.ofList (name.map asciiLower) with
  | "gmt" | "ut" => some 0
  | "edt" => some 4
  | "est" | "cdt" => some 5
  | "cst" | "mdt" => some 6
  | "mst" | "pdt" => some 7
  | "pst" => some 8
  | letter => if letter.length = 1 ∧ letter ≠ "j" then some 0 else none

def isLetter (c : Char) : Bool := 'a' ≤ asciiLower c && asciiLower c ≤ 'z'

def zone? (cs : List Char) : Option (Int × List Char) :=
  let name := cs.takeWhile isLetter
  if name.isEmpty then offset? false some cs
  else (zoneHours? name).map fun hours => (-(hours * 3600 : Nat), cs.dropWhile isLetter)

/-- Takes the rest of a comment at a depth; a backslash hides what follows it. -/
def commentRest? (depth : Nat) : List Char → Option (List Char)
  | [] => none
  | '\\' :: _ :: cs => commentRest? depth cs
  | '(' :: cs => commentRest? (depth + 1) cs
  | ')' :: cs => if depth ≤ 1 then some cs else commentRest? (depth - 1) cs
  | _ :: cs => commentRest? depth cs

/-- Only comments and the blanks before them are left. The first argument bounds their
number. -/
def onlyComments : Nat → List Char → Bool
  | _, [] => true
  | 0, _ => false
  | steps + 1, cs =>
    match trimStart cs with
    | '(' :: rest =>
      match commentRest? 1 rest with
      | some rest => onlyComments steps rest
      | none => false
    | _ => false

def fullYear (digits year : Nat) : Nat :=
  if digits = 2 then (if year ≤ 49 then year + 2000 else year + 1900)
  else if digits = 3 then year + 1900
  else year

def weekday? (cs : List Char) : Option (Option Nat × List Char) :=
  match shortName? weekdayNames cs with
  | some (day, cs) => (char? ',' cs).map fun cs => (some day, cs)
  | none => some (none, cs)

/-- Reads the seconds with their colon, if they are there. -/
def second? (cs : List Char) : Option (Nat × List Char) :=
  match char? ':' (trimStart cs) with
  | some cs => number? 2 2 cs
  | none => some (0, cs)

/-- Reads a date. A weekday has to be the one of the date. -/
def parse? (cs : List Char) : Option Timestamp := do
  let (expected, cs) ← weekday? (trimStart cs)
  let (day, cs) ← number? 1 2 (trimStart cs)
  let cs ← blanks? cs
  let (month, cs) ← shortName? monthNames cs
  let yearStart ← blanks? cs
  let (year, cs) ← number? 2 yearStart.length yearStart
  let year := fullYear (yearStart.length - cs.length) year
  let cs ← blanks? cs
  let (hour, cs) ← number? 2 2 cs
  let cs ← char? ':' (trimStart cs)
  let (minute, cs) ← number? 2 2 (trimStart cs)
  let (second, cs) ← second? cs
  let cs ← blanks? cs
  let (offset, cs) ← zone? cs
  let date : Date := ⟨year, month + 1, day⟩
  if onlyComments cs.length cs && expected.all (· == weekday date.dayNumber) then
    Timestamp.ofClock? ⟨date, hour, minute, second, 0, offset⟩
  else none

end FeedIngest.Time.MailDate
