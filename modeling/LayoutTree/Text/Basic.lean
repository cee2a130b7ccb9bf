/-!
Texts: rows of code points.

Nearly every text is a string of characters. A text in which half of a surrogate pair stands alone
is none, so such a text keeps its code points instead.
-/

namespace LayoutTree

/-- A text. Texts that are strings are always kept as strings, so two texts are the same exactly
if they are equal. -/
inductive Text where
  | plain (s : String)
  | broken (points : List Nat)
deriving DecidableEq, Repr

namespace Text

instance : Coe String Text := ⟨plain⟩

instance : Inhabited Text := ⟨plain ""⟩

/-- The code point belongs to a character, not to half of a surrogate pair. -/
def isScalar (n : Nat) : Bool := n < 0xD800 || (0xDFFF < n && n < 0x110000)

/-- The text of a row of code points. -/
def ofPoints (ns : List Nat) : Text :=
  if ns.all isScalar then plain (String.ofList (ns.map Char.ofNat)) else broken ns

/-- The code points of a text. -/
def points : Text → List Nat
  | plain s => s.toList.map Char.toNat
  | broken ns => ns

theorem isScalar_toNat (c : Char) : isScalar c.toNat = true := by
  have h : c.toNat < 0xD800 ∨ 0xDFFF < c.toNat ∧ c.toNat < 0x110000 := c.valid
  simpa [isScalar] using h

theorem toNat_ofNat {n : Nat} (h : isScalar n = true) : (Char.ofNat n).toNat = n := by
  have hn : n.isValidChar := by simpa [isScalar, Nat.isValidChar] using h
  rw [Char.ofNat, dif_pos hn]
  rfl

theorem points_ofPoints (ns : List Nat) : (ofPoints ns).points = ns := by
  unfold ofPoints
  split
  · next h =>
    simp only [points, String.toList_ofList, List.map_map]
    exact (List.map_congr_left fun n hn => toNat_ofNat (List.all_eq_true.1 h n hn)).trans
      (List.map_id' ns)
  · rfl

/-- A string keeps its code points, and they make it again. -/
@[simp] theorem ofPoints_points_plain (s : String) : ofPoints (plain s).points = plain s := by
  simp [ofPoints, points, isScalar_toNat, Function.comp_def]

/-- The text as a string, if it is one. -/
def string? : Text → Option String
  | plain s => some s
  | broken _ => none

protected def append : Text → Text → Text
  | plain a, plain b => plain (a ++ b)
  | a, b => ofPoints (a.points ++ b.points)

instance : Append Text := ⟨Text.append⟩

@[simp] theorem plain_append (a b : String) : plain a ++ plain b = plain (a ++ b) := rfl

def length : Text → Nat
  | plain s => s.length
  | broken ns => ns.length

def isEmpty : Text → Bool
  | plain s => s.isEmpty
  | broken ns => ns.isEmpty

/-- The texts one after the other with a separator between them. -/
def join (separator : Text) : List Text → Text
  | [] => ""
  | [t] => t
  | t :: ts => t ++ separator ++ join separator ts

/-- Each character is replaced by others. -/
def flatMap (f : Char → List Char) : Text → Text
  | plain s => plain (String.ofList (s.toList.flatMap f))
  | broken ns => ofPoints <| ns.flatMap fun n =>
      if isScalar n then (f (Char.ofNat n)).map Char.toNat else [n]

/-- The texts of the single code points. -/
def letters (t : Text) : List Text := t.points.map fun n => ofPoints [n]

/-- The text begins with another one. -/
def startsWith (t start : Text) : Bool := start.points.isPrefixOf t.points

/-- The parts before, between and after the occurrences of a code point. -/
def splitAt (point : Nat) (t : Text) : List Text :=
  let parts := t.points.foldr (fun n parts =>
    if n == point then [] :: parts
    else match parts with
      | [] => [[n]]
      | p :: ps => (n :: p) :: ps) [[]]
  parts.map ofPoints

end Text

end LayoutTree
