import FeedIngest.Decimal.Shortest
import FeedIngest.Json.Value
import FeedIngest.Text.Blank

/-!
# JSON numbers as values

Integers count as integers only in their plain form. A number with a point or an exponent is
read by scaling: the leading digits that fit a word of 64 bits are taken as a whole number,
which is then multiplied or divided by one power of ten. This is not always the nearest
binary number, but it is the one that a record holds after it was written and read.
-/

set_option autoImplicit false

namespace FeedIngest.JsonNumber

open Decimal (Binary64)
open Text

def ofInt (n : Int) : JsonNumber := ⟨n < 0, digits n.natAbs, [], none⟩

/-- The integer that is written. A minus sign before zero makes a number that is none. -/
def int? (n : JsonNumber) : Option Int :=
  if n.fraction.isEmpty && n.exponent.isNone then
    let value := digitsValue n.whole
    if n.negative then if value = 0 then none else some (-(value : Int)) else some value
  else none

def wordLimit : Nat := Nat.pow 2 64 - 1

def exponentLimit : Nat := Nat.pow 2 31 - 1

/-- Appends digits to a number as long as the result fits a word, and counts the digits taken
and those left. -/
def accumulate (start : Nat) : List Char → Nat × Nat × Nat
  | [] => (start, 0, 0)
  | d :: ds =>
    let next := start * 10 + digitValue d
    if wordLimit < next then (start, 0, (d :: ds).length)
    else
      let (value, taken, left) := accumulate next ds
      (value, taken + 1, left)

def significand (n : JsonNumber) : Nat × Int :=
  let (whole, _, left) := accumulate 0 n.whole
  let (value, taken, _) := accumulate whole n.fraction
  (value, (left : Int) - taken)

def power (exponent : Nat) : Binary64 := Binary64.ofNat (Nat.pow 10 exponent)

def greatestPower : Nat := 308

def scaleDown (x : Binary64) (exponent : Nat) : Binary64 :=
  if exponent ≤ greatestPower then x.divMagnitude (power exponent)
  else if x.units = 0 then x
  else scaleDown (x.divMagnitude (power greatestPower)) (exponent - greatestPower)
termination_by exponent
decreasing_by simp only [greatestPower] at *; omega

/-- Scales a whole number by a power of ten; `none` if the result is too great. -/
def scaled? (value : Nat) (exponent : Int) : Option Binary64 :=
  let x := Binary64.ofNat value
  if exponent < 0 then some (scaleDown x exponent.natAbs)
  else if exponent ≤ greatestPower then
    let product := x.mulMagnitude (power exponent.natAbs)
    if product.isFinite then some product else none
  else if x.units = 0 then some x
  else none

/-- The binary number that is written; `none` if it is too great. -/
def binary? (n : JsonNumber) : Option Binary64 :=
  let (value, scale) := n.significand
  let magnitude :=
    match n.exponent with
    | none => if n.fraction.isEmpty && scale = 0 then some (Binary64.ofNat value)
      else scaled? value scale
    | some (negative, ds) =>
      let exponent := digitsValue ds
      if exponentLimit < exponent then
        if value = 0 || negative then some (Binary64.zero false) else none
      else
        let exponent : Int := if negative then -(exponent : Int) else exponent
        scaled? value (scale + exponent)
  magnitude.map (Binary64.withSign n.negative)

def ofBinary (x : Binary64) : JsonNumber :=
  if x.units = 0 then ⟨x.negative, ['0'], ['0'], none⟩
  else
    let d := Decimal.shortestDigits x
    let ds := digits d.digits
    let lead : Int := (ds.length : Int) - 1 + d.exponent
    if lead < -5 ∨ 16 ≤ lead then ⟨x.negative, ds.take 1, ds.drop 1, some (lead < 0, digits lead.natAbs)⟩
    else if 0 ≤ d.exponent then ⟨x.negative, ds ++ List.replicate d.exponent.natAbs '0', ['0'], none⟩
    else if 0 ≤ lead then
      ⟨x.negative, ds.take (lead.natAbs + 1), ds.drop (lead.natAbs + 1), none⟩
    else ⟨x.negative, ['0'], List.replicate (lead.natAbs - 1) '0' ++ ds, none⟩

end FeedIngest.JsonNumber
