/-!
# Blank characters

The characters with the Unicode property `White_Space`, and trimming by them.
Robots files, feed texts and links are all trimmed by this one class.
-/

set_option autoImplicit false

namespace FeedIngest.Text

def isBlank (c : Char) : Bool :=
  let n := c.toNat
  (9 ≤ n && n ≤ 13) || n == 0x20 || n == 0x85 || n == 0xA0 || n == 0x1680 ||
    (0x2000 ≤ n && n ≤ 0x200A) || n == 0x2028 || n == 0x2029 || n == 0x202F ||
    n == 0x205F || n == 0x3000

def dropEnd {α : Type} (p : α → Bool) (cs : List α) : List α :=
  (cs.reverse.dropWhile p).reverse

def trimStart (cs : List Char) : List Char := cs.dropWhile isBlank

def trimEnd (cs : List Char) : List Char := dropEnd isBlank cs

def trim (cs : List Char) : List Char := trimEnd (trimStart cs)

def trimmed (s : String) : String := String.ofList (trim s.toList)

/-- The trimmed text, or nothing if no other character is left. -/
def nonBlank? (s : String) : Option String :=
  let t := trim s.toList
  if t.isEmpty then none else some (String.ofList t)

def asciiLower (c : Char) : Char :=
  if 'A' ≤ c ∧ c ≤ 'Z' then Char.ofNat (c.toNat + 32) else c

def lowered (s : String) : String := String.ofList (s.toList.map asciiLower)

def splitFirst? (sep : Char) : List Char → Option (List Char × List Char)
  | [] => none
  | c :: cs =>
    if c = sep then some ([], cs)
    else (splitFirst? sep cs).map fun (before, after) => (c :: before, after)

/-- What follows a given beginning, if the list begins with it. -/
def dropHead? (head : List Char) (cs : List Char) : Option (List Char) :=
  match head, cs with
  | [], cs => some cs
  | _ :: _, [] => none
  | h :: hs, c :: cs => if h = c then dropHead? hs cs else none

def dropThrough? (piece : List Char) : List Char → Option (List Char)
  | [] => if piece.isEmpty then some [] else none
  | c :: cs =>
    match dropHead? piece (c :: cs) with
    | some rest => some rest
    | none => dropThrough? piece cs

def hexValue? (c : Char) : Option Nat :=
  if '0' ≤ c ∧ c ≤ '9' then some (c.toNat - 48)
  else if 'a' ≤ c ∧ c ≤ 'f' then some (c.toNat - 87)
  else if 'A' ≤ c ∧ c ≤ 'F' then some (c.toNat - 55)
  else none

def isDigit (c : Char) : Bool := '0' ≤ c && c ≤ '9'

/-- The value of a decimal digit; other characters count as they would by position. -/
def digitValue (c : Char) : Nat := c.toNat - 48

def digitsValue (cs : List Char) : Nat := cs.foldl (fun n c => 10 * n + digitValue c) 0

def digits (n : Nat) : List Char :=
  if n < 10 then [Char.ofNat (48 + n)]
  else digits (n / 10) ++ [Char.ofNat (48 + n % 10)]
termination_by n

def decimal (n : Nat) : String := String.ofList (digits n)

def padded (width n : Nat) : List Char :=
  let ds := digits n
  List.replicate (width - ds.length) '0' ++ ds

def decimalInt (n : Int) : String :=
  if n < 0 then String.ofList ('-' :: digits n.natAbs) else decimal n.natAbs

end FeedIngest.Text
