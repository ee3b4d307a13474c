import FeedIngest.Time.Timestamp

/-!
# Timestamps as text

Writing in the form `2024-01-01T00:00:00.500Z`, and two readers: a strict one for feed
documents and a relaxed one for stored records, which takes unpadded numbers, blanks between
the parts and years of any length.
-/

set_option autoImplicit false

namespace FeedIngest.Time.Rfc3339

open Text

def yearText (year : Int) : List Char :=
  if 0 ≤ year ∧ year ≤ 9999 then padded 4 year.natAbs
  else (if year < 0 then '-' else '+') :: padded 4 year.natAbs

/-- The fraction of a second with 0, 3, 6 or 9 digits, the fewest that lose nothing. -/
def fractionText (nanos : Nat) : List Char :=
  if nanos = 0 then []
  else if nanos % 1000000 = 0 then '.' :: padded 3 (nanos / 1000000)
  else if nanos % 1000 = 0 then '.' :: padded 6 (nanos / 1000)
  else '.' :: padded 9 nanos

def clockText (r : ClockReading) : List Char :=
  yearText r.date.year ++ '-' :: padded 2 r.date.month ++ '-' :: padded 2 r.date.day ++
    'T' :: padded 2 r.hour ++ ':' :: padded 2 r.minute ++ ':' :: padded 2 r.second ++
    fractionText r.nanos ++ ['Z']

def render (t : Timestamp) : String := String.ofList (clockText t.toClock)

def number? (least most : Nat) (cs : List Char) : Option (Nat × List Char) :=
  let ds := (cs.take most).takeWhile isDigit
  if ds.length < least then none else some (digitsValue ds, cs.drop ds.length)

def char? (c : Char) : List Char → Option (List Char)
  | d :: cs => if d = c then some cs else none
  | [] => none

def separator? : List Char → Option (List Char)
  | c :: cs => if c = 'T' ∨ c = 't' ∨ c = ' ' then some cs else none
  | [] => none

/-- Reads the digits of a fraction: the first nine count. -/
def fraction? (cs : List Char) : Option (Nat × List Char) :=
  let ds := cs.takeWhile isDigit
  if ds.isEmpty then none
  else
    let kept := ds.take 9
    some (digitsValue kept * Nat.pow 10 (9 - kept.length), cs.drop ds.length)

def optionalFraction? : List Char → Option (Nat × List Char)
  | '.' :: cs => fraction? cs
  | cs => some (0, cs)

def twoDigits? (greatest : Char) : List Char → Option (Nat × List Char)
  | a :: b :: cs =>
    if isDigit a ∧ isDigit b ∧ a ≤ greatest then some (digitsValue [a, b], cs) else none
  | _ => none

/-- Reads the sign of an offset: whether the clock is behind. -/
def sign? (unicodeMinus : Bool) : List Char → Option (Bool × List Char)
  | '+' :: cs => some (false, cs)
  | '-' :: cs => some (true, cs)
  | '−' :: cs => if unicodeMinus then some (true, cs) else none
  | _ => none

def offset? (unicodeMinus : Bool) (between : List Char → Option (List Char)) (cs : List Char) :
    Option (Int × List Char) := do
  let (behind, cs) ← sign? unicodeMinus cs
  let (hours, cs) ← twoDigits? '9' cs
  let cs ← between cs
  let (minutes, cs) ← twoDigits? '5' cs
  let seconds : Int := (hours * 3600 + minutes * 60 : Nat)
  some (if behind then -seconds else seconds, cs)

def zone? (between : List Char → Option (List Char)) : List Char → Option (Int × List Char)
  | [] => none
  | c :: cs => if c = 'Z' ∨ c = 'z' then some (0, cs) else offset? true between (c :: cs)

/-- Reads the strict form: padded numbers, nothing between the parts, nothing after. -/
def parse? (cs : List Char) : Option Timestamp := do
  let (year, cs) ← number? 4 4 cs
  let cs ← char? '-' cs
  let (month, cs) ← number? 2 2 cs
  let cs ← char? '-' cs
  let (day, cs) ← number? 2 2 cs
  let cs ← separator? cs
  let (hour, cs) ← number? 2 2 cs
  let cs ← char? ':' cs
  let (minute, cs) ← number? 2 2 cs
  let cs ← char? ':' cs
  let (second, cs) ← number? 2 2 cs
  let (nanos, cs) ← optionalFraction? cs
  let (offset, cs) ← zone? (char? ':') cs
  if cs.isEmpty then
    Timestamp.ofClock? ⟨⟨year, month, day⟩, hour, minute, second, nanos, offset⟩
  else none

/-- Reads a year: up to four digits, or any number of them after a sign. -/
def year? : List Char → Option (Int × List Char)
  | '-' :: cs => (number? 1 cs.length cs).map fun (n, cs) => (-(n : Int), cs)
  | '+' :: cs => (number? 1 cs.length cs).map fun (n, cs) => ((n : Int), cs)
  | cs => (number? 1 4 cs).map fun (n, cs) => ((n : Int), cs)

def short? (cs : List Char) : Option (Nat × List Char) := number? 1 2 (trimStart cs)

def mark? (c : Char) (cs : List Char) : Option (List Char) := char? c (trimStart cs)

/-- Reads `UTC`, `Z` or an offset whose hours and minutes may be parted by colons and blanks. -/
def relaxedZone? (cs : List Char) : Option (Int × List Char) :=
  if (cs.take 3).map asciiLower = ['u', 't', 'c'] then some (0, cs.drop 3)
  else zone? (fun cs => some (cs.dropWhile fun c => c == ':' || isBlank c)) cs

/-- Reads the relaxed form. Blanks may follow it. -/
def parseRelaxed? (cs : List Char) : Option Timestamp := do
  let (year, cs) ← year? (trimStart cs)
  let cs ← mark? '-' cs
  let (month, cs) ← short? cs
  let cs ← mark? '-' cs
  let (day, cs) ← short? cs
  let cs ← separator? cs
  let (hour, cs) ← short? cs
  let cs ← mark? ':' cs
  let (minute, cs) ← short? cs
  let cs ← mark? ':' cs
  let (second, cs) ← short? cs
  let (nanos, cs) ← optionalFraction? cs
  let (offset, cs) ← relaxedZone? (trimStart cs)
  if (trimStart cs).isEmpty then
    Timestamp.ofClock? ⟨⟨year, month, day⟩, hour, minute, second, nanos, offset⟩
  else none

end FeedIngest.Time.Rfc3339
