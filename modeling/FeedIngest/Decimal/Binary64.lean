/-!
# Binary floating point numbers of 64 bits

A number is its bit pattern. Every finite number is a whole multiple of the least positive
one, 2^-1074, so that order, rounding and products are exact arithmetic on natural numbers.
-/

set_option autoImplicit false

namespace FeedIngest.Decimal

/-- A binary floating point number, given by its sign, exponent and fraction bits. -/
structure Binary64 where
  bits : UInt64
deriving DecidableEq, Repr

namespace Binary64

def negative (x : Binary64) : Bool := x.bits.toNat / Nat.pow 2 63 = 1

def exponentBits (x : Binary64) : Nat := x.bits.toNat / Nat.pow 2 52 % 2048

def fractionBits (x : Binary64) : Nat := x.bits.toNat % Nat.pow 2 52

def isFinite (x : Binary64) : Bool := x.exponentBits != 2047

def units (x : Binary64) : Nat :=
  if x.exponentBits = 0 then x.fractionBits
  else (Nat.pow 2 52 + x.fractionBits) * Nat.pow 2 (x.exponentBits - 1)

def ofMagnitudeBits (negative : Bool) (magnitude : Nat) : Binary64 :=
  ⟨UInt64.ofNat (magnitude + if negative then Nat.pow 2 63 else 0)⟩

def zero (negative : Bool) : Binary64 := ofMagnitudeBits negative 0

def one : Binary64 := ofMagnitudeBits false (1023 * Nat.pow 2 52)

def infinity (negative : Bool) : Binary64 := ofMagnitudeBits negative (2047 * Nat.pow 2 52)

/-- A quotient rounded to the nearest whole number, a half to the even neighbour. -/
def roundHalfEven (num den : Nat) : Nat :=
  let q := num / den
  let r := num % den
  if 2 * r < den then q
  else if den < 2 * r then q + 1
  else if q % 2 = 0 then q else q + 1

/-- The number nearest to `num / den` units, a tie going to the even fraction. -/
def ofUnits (negative : Bool) (num den : Nat) : Binary64 :=
  let q := num / den
  -- the spacing of the numbers around `q` units is `2 ^ shift` units
  let shift := if q < Nat.pow 2 53 then 0 else Nat.log2 q - 52
  let m := roundHalfEven num (den * Nat.pow 2 shift)
  -- a magnitude pattern counts the numbers below it, so a carry needs no case of its own
  let pattern := if shift = 0 then m else shift * Nat.pow 2 52 + m
  if 2047 * Nat.pow 2 52 ≤ pattern then infinity negative else ofMagnitudeBits negative pattern

def ofQuotient (negative : Bool) (num den : Nat) : Binary64 :=
  ofUnits negative (num * Nat.pow 2 1074) den

def ofNat (n : Nat) : Binary64 := ofQuotient false n 1

def mulMagnitude (x y : Binary64) : Binary64 := ofUnits false (x.units * y.units) (Nat.pow 2 1074)

def divMagnitude (x y : Binary64) : Binary64 := ofUnits false (x.units * Nat.pow 2 1074) y.units

def withSign (negative : Bool) (x : Binary64) : Binary64 :=
  ofMagnitudeBits negative (x.bits.toNat % Nat.pow 2 63)

/-- Strictly below zero. Both zeros are not. -/
def isBelowZero (x : Binary64) : Bool := x.negative && x.units != 0

def isAboveOne (x : Binary64) : Bool := !x.negative && Nat.pow 2 1074 < x.units

/-- The nearest number between zero and one; zero for numbers that are not finite. -/
def clampUnit (x : Binary64) : Binary64 :=
  if !x.isFinite then zero false
  else if x.isBelowZero then zero false
  else if x.isAboveOne then one
  else x

def InUnit (x : Binary64) : Prop :=
  x.isFinite = true ∧ x.isBelowZero = false ∧ x.isAboveOne = false

end Binary64

end FeedIngest.Decimal
