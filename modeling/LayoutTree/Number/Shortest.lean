import LayoutTree.Number.Double

/-!
The shortest decimal that reads back as a given double.

The reals that round to a double form an interval around it. On the grid of decimals with a
given number of digits only the two neighbours of the double can be the nearest point inside,
so the grids are tried from coarse to fine and the first hit is taken.
-/

namespace LayoutTree.Shortest

/-- A positive double as an exact fraction, with the distances to the ends of its interval over
the same denominator. The ends belong to the interval when the significand is even. -/
structure Target where
  num : Nat
  den : Nat
  below : Nat
  above : Nat
  closed : Bool

/-- Below a power of two the doubles lie twice as close. -/
def Target.of (x : Double) : Target :=
  let m := x.significand
  let q := x.scale - 2
  let below := if m = binade ∧ -1074 < x.scale then 1 else 2
  let up := Nat.pow 2 q.toNat
  ⟨4 * m * up, Nat.pow 2 (-q).toNat, below * up, 2 * up, m % 2 = 0⟩

/-- The target in units of `10 ^ g`. -/
def Target.inUnits (t : Target) (g : Int) : Target :=
  let s := Nat.pow 10 (-g).toNat
  ⟨t.num * s, t.den * Nat.pow 10 g.toNat, t.below * s, t.above * s, t.closed⟩

def Target.within (t : Target) (distance reach : Nat) : Bool :=
  if t.closed then distance ≤ reach else distance < reach

/-- The neighbour on the unit grid that lies in the interval, the nearer one if both do, and the
even one if they are equally near. -/
def Target.neighbour? (t : Target) : Option Nat :=
  let d := t.num / t.den
  let down := t.num - d * t.den
  let up := (d + 1) * t.den - t.num
  match t.within down t.below, t.within up t.above with
  | true, true => some (if down < up then d else if up < down then d + 1 else d + d % 2)
  | true, false => some d
  | false, true => some (d + 1)
  | false, false => none

/-- The value is at least `10 ^ e`. -/
def Target.reaches (t : Target) (e : Int) : Bool :=
  t.den * Nat.pow 10 e.toNat ≤ t.num * Nat.pow 10 (-e).toNat

/-- The number of digits before the decimal point: the value lies below `10 ^ p` and not below
`10 ^ (p - 1)`. The estimate from the binary logarithm is at most two short. -/
def Target.position (t : Target) : Int :=
  let l := (Nat.log2 t.num : Int) - Nat.log2 t.den - 1
  let e := Int.fdiv (l * 30103) 100000
  if t.reaches (e + 1) then e + 2 else if t.reaches e then e + 1 else e

/-- Drops trailing zeros into the exponent. -/
def trimmed : Nat → Nat → Int → Nat × Int
  | 0, d, g => (d, g)
  | n + 1, d, g => if d % 10 = 0 then trimmed n (d / 10) (g + 1) else (d, g)

/-- Digits and exponent of the first grid with a hit. -/
def search (t : Target) (p : Int) : Nat → Nat → Nat × Int
  | 0, k => trimmed 20 (t.inUnits (p - k)).num (p - k)
  | n + 1, k =>
    match (t.inUnits (p - k)).neighbour? with
    | some d => trimmed 20 d (p - k)
    | none => search t p n (k + 1)

/-- The digits `d` and the exponent `e` such that `d · 10 ^ e` is the shortest decimal of a
positive finite double. Seventeen digits always suffice. -/
def digits (x : Double) : Nat × Int :=
  let t := Target.of x
  search t t.position 17 1

end LayoutTree.Shortest
