import FeedIngest.Text.Blank

/-!
# Punycode

Labels of domain names that hold characters beyond ASCII, written in ASCII: the plain
characters, a dash, and the others as differences in numbers of base 36.
-/

set_option autoImplicit false

namespace FeedIngest.Url.Punycode

open Text

def digitChar (d : Nat) : Char := Char.ofNat (if d < 26 then 97 + d else 22 + d)

def digit? (c : Char) : Option Nat :=
  let c := asciiLower c
  if 'a' ≤ c ∧ c ≤ 'z' then some (c.toNat - 97)
  else if isDigit c then some (c.toNat - 22)
  else none

def threshold (bias k : Nat) : Nat := min 26 (max 1 (k - bias))

/-- Divides a difference down until it is small, counting the steps by 36. -/
def shrink (delta k : Nat) : Nat × Nat :=
  if 455 < delta then shrink (delta / 35) (k + 36) else (delta, k)
termination_by delta
decreasing_by omega

def adapt (delta count : Nat) (isFirst : Bool) : Nat :=
  let delta := if isFirst then delta / 700 else delta / 2
  let (delta, k) := shrink (delta + delta / count) 0
  k + 36 * delta / (delta + 38)

/-- The digits of a difference from a position on. The first argument bounds their number. -/
def difference (steps : Nat) (bias k q : Nat) : List Char :=
  let t := threshold bias k
  match steps with
  | 0 => [digitChar q]
  | steps + 1 =>
    if q < t then [digitChar q]
    else digitChar (t + (q - t) % (36 - t)) :: difference steps bias (k + 36) ((q - t) / (36 - t))

structure Encoding where
  delta : Nat
  bias : Nat
  written : Nat
  isFirst : Bool
  out : List Char

/-- Writes all occurrences of one character among those of a label; smaller ones count. -/
def writeChar (label : List Char) (n : Char) (e : Encoding) : Encoding :=
  label.foldl (fun e c =>
    if c < n then { e with delta := e.delta + 1 }
    else if c = n then
      { delta := 0
        bias := adapt e.delta (e.written + 1) e.isFirst
        written := e.written + 1
        isFirst := false
        out := e.out ++ difference 40 e.bias 36 e.delta }
    else e) e

def writeAll (label : List Char) (previous : Nat) (e : Encoding) : List Char → Encoding
  | [] => e
  | n :: rest =>
    let e := { e with delta := e.delta + (n.toNat - previous) * (e.written + 1) }
    let e := writeChar label n e
    writeAll label (n.toNat + 1) { e with delta := e.delta + 1 } rest

/-- Inserts a character into an increasing list that has each once. -/
def insertOnce (c : Char) : List Char → List Char
  | [] => [c]
  | d :: ds => if c < d then c :: d :: ds else if c = d then d :: ds else d :: insertOnce c ds

/-- The ASCII form of a label, without the sign that marks it. -/
def encode (label : List Char) : List Char :=
  let plain := label.filter fun c => c.toNat < 128
  let others := (label.filter fun c => !(c.toNat < 128)).foldr insertOnce []
  let start := if plain.isEmpty then [] else plain ++ ['-']
  (writeAll label 128 ⟨0, 72, plain.length, true, start⟩ others).out

/-- Reads a difference: the value and what is left. -/
def readDifference (bias k weight value : Nat) : List Char → Option (Nat × List Char)
  | [] => none
  | c :: cs =>
    match digit? c with
    | none => none
    | some d =>
      let value := value + d * weight
      let t := threshold bias k
      if Nat.pow 2 32 ≤ value then none
      else if d < t then some (value, cs)
      else readDifference bias (k + 36) (weight * (36 - t)) value cs

/-- Reads differences and inserts their characters. The first argument bounds their number. -/
def readAll (steps : Nat) (n i bias : Nat) (out : List Char) (cs : List Char) :
    Option (List Char) :=
  match steps, cs with
  | _, [] => some out
  | 0, _ => none
  | steps + 1, cs =>
    match readDifference bias 36 1 0 cs with
    | none => none
    | some (delta, rest) =>
      let count := out.length + 1
      let total := i + delta
      let n := n + total / count
      let place := total % count
      if n.isValidChar then
        readAll steps n (place + 1) (adapt delta count (i = 0))
          (out.take place ++ Char.ofNat n :: out.drop place) rest
      else none

/-- The label of an ASCII form. The plain characters stand before the last dash. -/
def decode? (cs : List Char) : Option (List Char) :=
  let tail := (cs.reverse.takeWhile (· != '-')).reverse
  let plain := cs.take (cs.length - tail.length - 1)
  readAll (cs.length + 1) 128 0 72 plain (if plain.isEmpty then cs else tail)

end FeedIngest.Url.Punycode
