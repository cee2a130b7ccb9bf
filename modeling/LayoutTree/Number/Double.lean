/-!
Double-precision numbers as data.

A double is a sign with an exponent field and a fraction field, an infinity, or one particular
not-a-number. Layouts store, compare and write numbers and never compute with them, so no
rounded arithmetic is needed here.
-/

namespace LayoutTree

/-- The number of doubles from one power of two up to the next: two to the power of 52. -/
abbrev binade : Nat := 4503599627370496

/-- A double. Each not-a-number that is made carries a tag of its own, and two of them are the
same number only if the tags agree. -/
inductive Double where
  | finite (negative : Bool) (exponent : Fin 2047) (fraction : Fin binade)
  | infinite (negative : Bool)
  | nan (tag : Nat)
deriving DecidableEq, Repr

namespace Double

def zero : Double := .finite false ⟨0, by decide⟩ ⟨0, by decide⟩

instance : Inhabited Double := ⟨zero⟩

def isNegative : Double → Bool
  | .finite n _ _ => n
  | .infinite n => n
  | .nan _ => false

def isNan : Double → Bool
  | .nan _ => true
  | _ => false

def isFinite : Double → Bool
  | .finite _ _ _ => true
  | _ => false

/-- The whole number that a finite double scales by a power of two: the fraction field, with the
leading bit that every exponent but the least implies. -/
def significand : Double → Nat
  | .finite _ e f => if e.val = 0 then f.val else f.val + binade
  | _ => 0

/-- The power of two that scales the significand. -/
def scale : Double → Int
  | .finite _ e _ => (max e.val 1 : Nat) - 1075
  | _ => 0

def isZero (x : Double) : Bool := x.isFinite && x.significand == 0

/-- Two doubles are the same number: the same double, or zeros of either sign. -/
def same (x y : Double) : Bool := decide (x = y) || (x.isZero && y.isZero)

@[simp] theorem same_self (x : Double) : x.same x = true := by simp [same]

/-- The double is not above a whole number. -/
def atMost (x : Double) (i : Int) : Bool :=
  match x with
  | .nan _ => false
  | .infinite negative => negative
  | .finite negative _ _ =>
    let n : Int := if negative then -x.significand else x.significand
    if 0 ≤ x.scale then n * Nat.pow 2 x.scale.toNat ≤ i else n ≤ i * Nat.pow 2 (-x.scale).toNat

/-- The double at a place in the row of finite doubles of one sign, counted from zero; the first
place after the last finite one is the infinity. -/
def atPlace (negative : Bool) (place : Nat) : Double :=
  if h : place / binade < 2047 then
    .finite negative ⟨place / binade, h⟩ ⟨place % binade, Nat.mod_lt _ (by decide)⟩
  else .infinite negative

end Double

end LayoutTree
