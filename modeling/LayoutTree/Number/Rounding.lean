import LayoutTree.Number.Double

/-!
The double nearest to a fraction, to an integer and to a decimal; a tie goes to the even
neighbour, and what lies beyond the largest double becomes an infinity.
-/

namespace LayoutTree

/-- The quotient rounded to the nearest whole number, a tie to the even one. -/
def roundDiv (num den : Nat) : Nat :=
  let q := num / den
  let r := num % den
  if 2 * r < den then q else if den < 2 * r then q + 1 else q + q % 2

/-- Where the signed words of 64 bits end: two to the power of 63. -/
def wordLimit : Int := 9223372036854775808

namespace Double

/-- A fraction divided by a power of two. -/
def unscaled (num den : Nat) (q : Int) : Nat × Nat :=
  if 0 ≤ q then (num, den * Nat.pow 2 q.toNat) else (num * Nat.pow 2 (-q).toNat, den)

/-- The scale at which a positive fraction has a significand of 53 bits, or the least scale. -/
def scaleFor (num den : Nat) : Int :=
  let low := (Nat.log2 num : Int) - Nat.log2 den - 53
  let p := unscaled num den low
  max (if 2 * binade ≤ p.1 / p.2 then low + 1 else low) (-1074)

/-- The double nearest to a fraction with a positive denominator. -/
def ofRatio (negative : Bool) (num den : Nat) : Double :=
  if num = 0 then atPlace negative 0
  else
    let q := scaleFor num den
    let p := unscaled num den q
    atPlace negative ((q + 1074).toNat * binade + roundDiv p.1 p.2)

def ofInt (i : Int) : Double := ofRatio (i < 0) i.natAbs 1

/-- The double nearest to `digits · 10 ^ exponent`. Exponents far outside the range of doubles
are answered without writing the power out. -/
def ofDecimal (negative : Bool) (digits : Nat) (exponent : Int) : Double :=
  let top := exponent + (Nat.log2 digits * 30103 / 100000 : Nat)
  if digits = 0 ∨ top < -400 then atPlace negative 0
  else if 400 < top then .infinite negative
  else if 0 ≤ exponent then ofRatio negative (digits * Nat.pow 10 exponent.toNat) 1
  else ofRatio negative digits (Nat.pow 10 (-exponent).toNat)

/-- The integer that a double equals, if it has no fraction. A scale below -52 leaves a fraction
of every significand but zero. -/
def toInt? (x : Double) : Option Int :=
  let sign (n : Nat) : Int := if x.isNegative then -n else n
  if !x.isFinite then none
  else if x.significand = 0 then some 0
  else if 0 ≤ x.scale then some (sign (x.significand * Nat.pow 2 x.scale.toNat))
  else if x.scale < -52 then none
  else
    let d := Nat.pow 2 (-x.scale).toNat
    if x.significand % d = 0 then some (sign (x.significand / d)) else none

end Double

end LayoutTree
