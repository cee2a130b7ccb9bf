import LayoutTree.Text.Basic

/-!
Texts as rows of bytes.

Characters are written in UTF-8. A byte that belongs to no character is read as a code point of
its own, half of a surrogate pair, and such a half is written as its byte. A string is read back
as it was; halves whose bytes make up a character are read back as that character.
-/

namespace LayoutTree.Text

/-- A code point that stands for a byte which belongs to no character. -/
def isStrayByte (n : Nat) : Bool := 0xDC80 ≤ n && n ≤ 0xDCFF

/-- The bytes of a character, or the byte that a code point stands for. -/
def pointBytes (n : Nat) : List UInt8 :=
  if isScalar n then String.utf8EncodeChar (Char.ofNat n) else [UInt8.ofNat (n - 0xDC00)]

def bytes (t : Text) : List UInt8 := t.points.flatMap pointBytes

/-- The character at the front of a row of bytes. -/
def frontChar? (bs : List UInt8) : Option Char := (bs.take 4).toByteArray.utf8DecodeChar? 0

/-- The code points of a row of bytes of which the first ones, as many as given, are left out. -/
def pointsAfter : Nat → List UInt8 → List Nat
  | _, [] => []
  | n + 1, _ :: bs => pointsAfter n bs
  | 0, b :: bs =>
    match frontChar? (b :: bs) with
    | some c => c.toNat :: pointsAfter (c.utf8Size - 1) bs
    | none => (0xDC00 + b.toNat) :: pointsAfter 0 bs

/-- The text of a row of bytes. -/
def ofBytes (bs : List UInt8) : Text := ofPoints (pointsAfter 0 bs)

theorem frontChar?_append (c : Char) (bs : List UInt8) :
    frontChar? (String.utf8EncodeChar c ++ bs) = some c := by
  have hl := String.length_utf8EncodeChar c
  have h4 := c.utf8Size_le_four
  rw [frontChar?, List.take_append, List.take_of_length_le (by omega), List.toByteArray_append]
  exact ByteArray.utf8DecodeChar?_utf8EncodeChar_append

theorem pointsAfter_length (as bs : List UInt8) :
    pointsAfter as.length (as ++ bs) = pointsAfter 0 bs := by
  induction as with
  | nil => rfl
  | cons a as ih => simp [pointsAfter, ih]

theorem pointsAfter_zero_append (c : Char) (bs : List UInt8) :
    pointsAfter 0 (String.utf8EncodeChar c ++ bs) = c.toNat :: pointsAfter 0 bs := by
  have hf := frontChar?_append c bs
  have hl := String.length_utf8EncodeChar c
  have h0 := c.utf8Size_pos
  cases he : String.utf8EncodeChar c with
  | nil => simp [he] at hl; omega
  | cons a as =>
    rw [he] at hf hl
    have has : as.length = c.utf8Size - 1 := by simp at hl; omega
    rw [List.cons_append] at hf ⊢
    rw [pointsAfter, hf]
    simp [← has, pointsAfter_length]

theorem bytes_plain (s : String) : (plain s).bytes = s.toList.flatMap String.utf8EncodeChar := by
  simp [bytes, points, List.flatMap_map, pointBytes, isScalar_toNat]

@[simp] theorem ofBytes_bytes_plain (s : String) : ofBytes (plain s).bytes = plain s := by
  have h (cs : List Char) :
      pointsAfter 0 (cs.flatMap String.utf8EncodeChar) = cs.map Char.toNat := by
    induction cs with
    | nil => rfl
    | cons c cs ih => simp [pointsAfter_zero_append, ih]
  rw [ofBytes, bytes_plain, h]
  exact ofPoints_points_plain s

end LayoutTree.Text
