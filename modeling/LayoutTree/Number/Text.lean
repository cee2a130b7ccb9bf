import LayoutTree.Number.Shortest

/-!
The written form of a double: the shortest digits, laid out by a style.
-/

namespace LayoutTree

/-- How a double is laid out. A decimal point that falls in the span from `first` to `last` is
written in place, otherwise an exponent follows; exponents have a sign and at least two digits. -/
structure NumberStyle where
  first : Int
  last : Int
  infinity : String
  nan : String

namespace NumberStyle

def zeros (n : Int) : String := String.ofList (List.replicate n.toNat '0')

/-- The point stands before the first digit or between two digits, or zeros fill the gap to it. -/
def positional (digits : String) (point : Int) : String :=
  if point ≤ 0 then "0." ++ zeros (-point) ++ digits
  else if point < digits.length then
    String.ofList (digits.toList.take point.toNat) ++ "."
      ++ String.ofList (digits.toList.drop point.toNat)
  else digits ++ zeros (point - digits.length) ++ ".0"

def exponential (digits : String) (point : Int) : String :=
  let e := point - 1
  let size := toString e.natAbs
  let head := String.ofList (digits.toList.take 1)
  let tail := String.ofList (digits.toList.drop 1)
  head ++ (if tail.isEmpty then "" else "." ++ tail) ++ "e" ++ (if e < 0 then "-" else "+")
    ++ (if size.length < 2 then "0" ++ size else size)

def magnitude (style : NumberStyle) (x : Double) : String :=
  if x.isZero then "0.0"
  else
    let (d, e) := Shortest.digits x
    let digits := toString d
    let point := digits.length + e
    if style.first ≤ point ∧ point ≤ style.last then positional digits point
    else exponential digits point

def write (style : NumberStyle) (x : Double) : String :=
  match x with
  | .nan _ => style.nan
  | .infinite n => (if n then "-" else "") ++ style.infinity
  | .finite n _ _ => (if n then "-" else "") ++ style.magnitude x

end NumberStyle

/-- Numbers are written in place from four places behind the point to sixteen before it. -/
def NumberStyle.plain : NumberStyle := ⟨-3, 16, "inf", "nan"⟩

def Double.text (x : Double) : String := NumberStyle.plain.write x

end LayoutTree
