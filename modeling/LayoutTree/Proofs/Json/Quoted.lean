import LayoutTree.Json.Printer
import LayoutTree.Json.Reader
import Mathlib.Tactic.Lemma

/-!
Strings are read back from their quoted form, character by character.
-/

namespace LayoutTree.Json

open Text

lemma hexValue?_hexDigit (n : Nat) : hexValue? (hexDigit n) = some (n % 16) := by
  have h : ∀ k < 16, hexValue? (Nat.digitChar k) = some k := by decide
  exact h _ (Nat.mod_lt _ (by decide))

lemma unit?_hex {n : Nat} (h : n < 0x10000) (rest : List Char) :
    unit? (hex 4 n ++ rest) = some (n, rest) := by
  have hhex : hex 4 n ++ rest = hexDigit (n / 16 / 16 / 16) :: hexDigit (n / 16 / 16)
      :: hexDigit (n / 16) :: hexDigit n :: rest := by
    simp [hex]
  rw [hhex, unit?]
  simp only [hexValue?_hexDigit, Option.bind_eq_bind, Option.bind_some, Option.some.injEq,
    Prod.mk.injEq, and_true]
  omega

/-- The unit of a character of the first plane. -/
lemma unescapeUnit?_hex {n : Nat} (h : n < 0xD800 ∨ 0xDFFF < n) (hn : n < 0x10000)
    (rest : List Char) : unescapeUnit? (hex 4 n ++ rest) = some (n, rest) := by
  unfold unescapeUnit?
  rw [unit?_hex hn, Option.bind_eq_bind, Option.bind_some]
  dsimp only
  rw [if_neg (by simp; omega)]

/-- The two units of another character. -/
lemma unescapeUnit?_pair {n : Nat} (h : 0x10000 ≤ n) (hn : n < 0x110000) (rest : List Char) :
    unescapeUnit? (hex 4 (0xD800 + (n - 0x10000) / 0x400) ++
      (escapeUnit (0xDC00 + (n - 0x10000) % 0x400) ++ rest)) = some (n, rest) := by
  unfold unescapeUnit? escapeUnit
  rw [unit?_hex (by omega), Option.bind_eq_bind, Option.bind_some]
  simp only [List.cons_append]
  rw [if_pos (by simp; omega), unit?_hex (by omega), Option.bind_some]
  dsimp only
  rw [if_pos (by simp; omega)]
  simp only [Option.some.injEq, Prod.mk.injEq, and_true]
  omega

/-- A character that stands for itself is read as it is. -/
lemma string?_plain {c : Char} (h : 0x20 ≤ c.toNat) (hquote : c ≠ '"') (hslash : c ≠ '\\')
    (fuel : Nat) (read : List Nat) (rest : List Char) :
    string? (fuel + 1) read (c :: rest) = string? fuel (c.toNat :: read) rest := by
  rw [string?.eq_def]
  dsimp only
  split
  case h_1 heq => cases heq
  case h_2 heq => exact absurd (List.cons.inj heq).1 hquote
  case h_3 heq => exact absurd (List.cons.inj heq).1 hslash
  case h_4 heq =>
    cases heq
    rw [if_neg (by omega)]

/-- A character is read back. -/
lemma string?_escape (c : Char) (fuel : Nat) (read : List Nat) (rest : List Char) :
    string? (fuel + 1) read (escape c.toNat ++ rest) = string? fuel (c.toNat :: read) rest := by
  have hc : c.toNat < 0xD800 ∨ 0xDFFF < c.toNat ∧ c.toNat < 0x110000 := c.valid
  have hunit : ∀ {cs}, unescapeUnit? cs = some (c.toNat, rest) →
      string? (fuel + 1) read ('\\' :: 'u' :: cs) = string? fuel (c.toNat :: read) rest := by
    intro cs hcs
    rw [string?, unescape?, hcs]
  unfold escape
  -- the short escapes
  iterate 7
    split
    · rename_i heq
      rw [eq_of_beq heq]
      rfl
  split
  · rename_i hquote hslash _ _ _ _ _ hplain
    simp only [Bool.and_eq_true, decide_eq_true_eq] at hplain
    rw [Char.ofNat_toNat, List.singleton_append]
    refine string?_plain hplain.1 ?_ ?_ ..
    · rintro rfl
      exact hquote rfl
    · rintro rfl
      exact hslash rfl
  split
  · rename_i hplane
    exact hunit (unescapeUnit?_hex (by omega) hplane rest)
  · rw [List.append_assoc]
    exact hunit (unescapeUnit?_pair (by omega) (by omega) rest)

/-- A string is read up to its closing quote. -/
lemma string?_chars (cs : List Char) {fuel : Nat} (hf : cs.length < fuel) (read : List Nat)
    (rest : List Char) : string? fuel read ((cs.map Char.toNat).flatMap escape ++ '"' :: rest) =
      some (.ofPoints (read.reverse ++ cs.map Char.toNat), rest) := by
  induction cs generalizing fuel read with
  | nil =>
    obtain ⟨m, rfl⟩ := Nat.exists_eq_succ_of_ne_zero (Nat.ne_of_gt hf)
    simp [string?]
  | cons c cs ih =>
    obtain ⟨m, rfl⟩ := Nat.exists_eq_succ_of_ne_zero (Nat.ne_of_gt (Nat.zero_lt_of_lt hf))
    rw [List.map_cons, List.flatMap_cons, List.append_assoc, string?_escape, ih (by simpa using hf)]
    simp

lemma escape_ne_nil (n : Nat) : escape n ≠ [] := by
  unfold escape
  repeat' split
  all_goals simp [escapeUnit]

lemma length_le_flatMap_escape (cs : List Char) :
    cs.length ≤ ((cs.map Char.toNat).flatMap escape).length := by
  induction cs with
  | nil => simp
  | cons c cs ih =>
    have hc := List.length_pos_iff.2 (escape_ne_nil c.toNat)
    simp only [List.map_cons, List.flatMap_cons, List.length_append, List.length_cons]
    omega

/-- A quoted string is read back after its opening quote. -/
lemma string?_quote (s : String) {fuel : Nat} (hf : (quote (.plain s)).length ≤ fuel + 1)
    (rest : List Char) :
    ∃ cs, quote (.plain s) ++ rest = '"' :: cs ∧ string? fuel [] cs = some (.plain s, rest) := by
  have hlength := length_le_flatMap_escape s.toList
  refine ⟨(Text.points s).flatMap escape ++ '"' :: rest, by simp [quote], ?_⟩
  rw [points, string?_chars, List.reverse_nil, List.nil_append]
  · exact congrArg (fun t => some (t, rest)) (ofPoints_points_plain s)
  · simp only [quote, points, List.length_append, List.length_cons, List.length_nil] at hf
    omega

end LayoutTree.Json
