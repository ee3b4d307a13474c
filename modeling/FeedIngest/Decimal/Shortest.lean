import FeedIngest.Decimal.Binary64
import FeedIngest.Text.Blank

/-!
# Shortest decimals

The fewest digits that read back as the same binary number, and among those the nearest.
For 1, 2, … 17 digits the two neighbours of the number on that decimal grid are tested in
exact arithmetic; the first grid with a hit wins.
-/

set_option autoImplicit false

namespace FeedIngest.Decimal

structure Digits where
  digits : Nat
  exponent : Int
deriving DecidableEq, Repr

namespace Digits

def fraction (d : Digits) : Nat × Nat :=
  if 0 ≤ d.exponent then (d.digits * Nat.pow 10 d.exponent.toNat, 1)
  else (d.digits, Nat.pow 10 (-d.exponent).toNat)

def toBinary (d : Digits) (negative : Bool) : Binary64 :=
  let (num, den) := d.fraction
  Binary64.ofQuotient negative num den

def normalized (d : Digits) : Nat → Digits
  | 0 => d
  | fuel + 1 =>
    if d.digits ≠ 0 ∧ d.digits % 10 = 0 then
      normalized ⟨d.digits / 10, d.exponent + 1⟩ fuel
    else d

end Digits

def decimalExponent (num den : Nat) : Int :=
  if den ≤ num then Int.ofNat ((Text.digits (num / den)).length - 1)
  else
    -- the least `k` with `den ≤ num * 10^k`
    let k := (Text.digits ((den - 1) / num)).length
    let k := if den ≤ num * Nat.pow 10 (k - 1) then k - 1 else k
    0 - Int.ofNat k

def gridHit? (x : Binary64) (num den : Nat) (top : Int) (places : Nat) : Option Digits :=
  let exponent : Int := top - (Int.ofNat places - 1)
  let (scaledNum, scaledDen) :=
    if 0 ≤ exponent then (num, den * Nat.pow 10 exponent.toNat)
    else (num * Nat.pow 10 (-exponent).toNat, den)
  let below := scaledNum / scaledDen
  let r := scaledNum % scaledDen
  let readsBack (n : Nat) : Bool :=
    n ≠ 0 && (Digits.toBinary ⟨n, exponent⟩ false).bits == x.bits
  let low := readsBack below
  let high := readsBack (below + 1)
  if low && (!high || 2 * r ≤ scaledDen) then some ⟨below, exponent⟩
  else if high then some ⟨below + 1, exponent⟩
  else none

def shortestDigits (x : Binary64) : Digits :=
  let x := x.withSign false
  let num := x.units
  let den := Nat.pow 2 1074
  let top := decimalExponent num den
  let found := (List.range' 1 17).findSome? (gridHit? x num den top)
  (found.getD ⟨num, -1074⟩).normalized 20

end FeedIngest.Decimal
