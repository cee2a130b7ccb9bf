import LayoutTree.Number.Rounding
import LayoutTree.Value.Same
import Mathlib.Algebra.Field.Rat
import Mathlib.Tactic.Lemma
import Mathlib.Tactic.Ring

/-!
Doubles as numbers: a finite double is known by how many of the least positive double it amounts to,
and so by the rational number that it is, apart from the sign of zero. A double without a fraction
is known by the integer that it equals. So doubles are equal as values exactly if they are the same
number. Not-a-numbers are told from each other by their tags alone.
-/

namespace LayoutTree

namespace Double

/-- How many of the least positive double a finite double amounts to, apart from its sign. -/
def magnitude (x : Double) : Nat := x.significand * 2 ^ (x.scale + 1074).toNat

lemma magnitude_finite (n : Bool) (e : Fin 2047) (f : Fin binade) :
    (finite n e f).magnitude =
      (if e.val = 0 then f.val else f.val + binade) * 2 ^ (e.val - 1) := by
  have h : ((finite n e f).scale + 1074).toNat = e.val - 1 := by
    simp only [scale]
    omega
  rw [magnitude, h, significand]

/-- From one exponent up to the next the magnitudes double. -/
lemma magnitude_lt {e e' : Fin 2047} (h : e < e') (n n' : Bool) (f f' : Fin binade) :
    (finite n e f).magnitude < (finite n' e' f').magnitude := by
  have hlt : e.val < e'.val := h
  rw [magnitude_finite, magnitude_finite, if_neg (by omega : e'.val ≠ 0)]
  have hf : f.val < binade := f.isLt
  have hlow : binade * 2 ^ (e'.val - 1) ≤ (f'.val + binade) * 2 ^ (e'.val - 1) :=
    Nat.mul_le_mul_right _ (by omega)
  split
  · rename_i he
    calc f.val * 2 ^ (e.val - 1) = f.val := by simp [he]
      _ < binade * 1 := by omega
      _ ≤ binade * 2 ^ (e'.val - 1) := Nat.mul_le_mul_left _ Nat.one_le_two_pow
      _ ≤ _ := hlow
  · calc (f.val + binade) * 2 ^ (e.val - 1)
        < (2 * binade) * 2 ^ (e.val - 1) :=
          Nat.mul_lt_mul_of_pos_right (by omega) (Nat.two_pow_pos _)
      _ = binade * 2 ^ (e.val - 1 + 1) := by rw [Nat.pow_succ]; ring
      _ ≤ binade * 2 ^ (e'.val - 1) :=
        Nat.mul_le_mul_left _ (Nat.pow_le_pow_right (by omega) (by omega))
      _ ≤ _ := hlow

lemma magnitude_inj {n n' : Bool} {e e' : Fin 2047} {f f' : Fin binade}
    (h : (finite n e f).magnitude = (finite n' e' f').magnitude) : e = e' ∧ f = f' := by
  rcases Nat.lt_trichotomy e.val e'.val with he | he | he
  · exact absurd h (Nat.ne_of_lt (magnitude_lt he n n' f f'))
  · obtain rfl := Fin.ext he
    rw [magnitude_finite, magnitude_finite] at h
    have hf := Nat.eq_of_mul_eq_mul_right (Nat.two_pow_pos _) h
    refine ⟨rfl, Fin.ext ?_⟩
    split at hf <;> omega
  · exact absurd h (Nat.ne_of_gt (magnitude_lt he n' n f' f))

/-! ### Values -/

lemma le_scale (x : Double) : -1074 ≤ x.scale := by
  cases x <;> simp only [scale] <;> omega

/-- How many of the least positive double a finite double amounts to. -/
def units (x : Double) : Int := if x.isNegative then -x.magnitude else x.magnitude

lemma isZero_of_magnitude {x : Double} (hf : x.isFinite = true) (h : x.magnitude = 0) :
    x.isZero = true := by
  rcases Nat.mul_eq_zero.1 h with hs | hp
  · simp [isZero, hf, hs]
  · exact absurd hp (Nat.ne_of_gt (Nat.two_pow_pos _))

/-- Finite doubles that amount to the same are the same number. -/
lemma same_of_units {x y : Double} (hx : x.isFinite = true) (hy : y.isFinite = true)
    (h : x.units = y.units) : x.same y = true := by
  unfold units at h
  have hmag : x.magnitude = y.magnitude := by
    split at h <;> split at h <;> omega
  -- apart from zero the signs agree as well
  rcases Nat.eq_zero_or_pos x.magnitude with hzero | hpos
  · have hx0 := isZero_of_magnitude hx hzero
    have hy0 := isZero_of_magnitude hy (hmag ▸ hzero)
    simp [same, hx0, hy0]
  · have hneg : x.isNegative = y.isNegative := by
      cases hnx : x.isNegative <;> cases hny : y.isNegative <;> first
        | rfl
        | simp only [hnx, hny, Bool.false_eq_true, ↓reduceIte] at h
          omega
    cases x with
    | finite s e f =>
      cases y with
      | finite s' e' f' =>
        obtain ⟨rfl, rfl⟩ := magnitude_inj hmag
        obtain rfl : s = s' := hneg
        simp
      | _ => cases hy
    | _ => cases hx

/-- The number that a finite double is. -/
def toRat? (x : Double) : Option ℚ :=
  if x.isFinite then some ((if x.isNegative then -1 else 1) * x.significand * 2 ^ x.scale)
  else none

lemma toRat?_eq_some_iff {x : Double} {q : ℚ} :
    x.toRat? = some q ↔ x.isFinite = true ∧ x.units = q * 2 ^ 1074 := by
  have hscale : (2 : ℚ) ^ (x.scale + 1074).toNat = 2 ^ x.scale * 2 ^ 1074 := by
    have h := x.le_scale
    rw [← zpow_natCast, Int.toNat_of_nonneg (by omega), zpow_add₀ (by decide)]
    rfl
  have hunits : (x.units : ℚ) =
      (if x.isNegative then -1 else 1) * x.significand * 2 ^ x.scale * 2 ^ 1074 := by
    rw [mul_assoc, ← hscale]
    unfold units magnitude
    split <;> simp
  unfold toRat?
  split
  · rename_i hx
    rw [hunits, Option.some_inj, mul_left_inj' (by simp)]
    simp [hx]
  · rename_i hx
    simp [hx]

/-- Two doubles are one number: finite ones by their value, infinities by their sign, and a
not-a-number with itself alone. -/
inductive Equal : Double → Double → Prop
  | finite {x y : Double} {q : ℚ} : x.toRat? = some q → y.toRat? = some q → Equal x y
  | infinite (negative : Bool) : Equal (.infinite negative) (.infinite negative)
  | nan (tag : Nat) : Equal (.nan tag) (.nan tag)

lemma units_of_isZero {x : Double} (h : x.isZero = true) : x.units = 0 := by
  simp only [isZero, Bool.and_eq_true, beq_iff_eq] at h
  simp [units, magnitude, h.2]

/-- The comparison of doubles tells which of them are one number. -/
lemma same_iff {x y : Double} : x.same y = true ↔ x.Equal y := by
  constructor
  · intro h
    simp only [same, Bool.or_eq_true, decide_eq_true_eq, Bool.and_eq_true] at h
    rcases h with rfl | ⟨hx, hy⟩
    · cases x with
      | finite n e f => exact .finite rfl rfl
      | infinite n => exact .infinite n
      | nan tag => exact .nan tag
    · have hzero : ∀ z : Double, z.isZero = true → z.toRat? = some 0 := by
        intro z hz
        have hfin : z.isFinite = true := (Bool.and_eq_true_iff.1 hz).1
        exact toRat?_eq_some_iff.2 ⟨hfin, by simp [units_of_isZero hz]⟩
      exact .finite (hzero x hx) (hzero y hy)
  · rintro (⟨hx, hy⟩ | n | tag)
    · obtain ⟨hfx, hux⟩ := toRat?_eq_some_iff.1 hx
      obtain ⟨hfy, huy⟩ := toRat?_eq_some_iff.1 hy
      exact same_of_units hfx hfy (by exact_mod_cast hux.trans huy.symm)
    · exact same_self _
    · exact same_self _

/-! ### Integers -/

/-- The integer that a double equals has its sign and its magnitude. -/
lemma exists_natAbs_of_toInt? {x : Double} {i : Int} (h : x.toInt? = some i) :
    x.isFinite = true ∧
      ∃ n : Nat, i = (if x.isNegative then -(n : Int) else n) ∧ n * 2 ^ 1074 = x.magnitude := by
  have hle := x.le_scale
  unfold toInt? at h
  dsimp only at h
  split at h
  · cases h
  rename_i hfin
  refine ⟨by simpa using hfin, ?_⟩
  split at h
  · -- zero
    rename_i hz
    cases h
    exact ⟨0, by simp, by rw [magnitude, hz, Nat.zero_mul, Nat.zero_mul]⟩
  split at h
  · -- no part of the significand is behind the point
    rename_i hs
    cases h
    refine ⟨_, rfl, ?_⟩
    have he : (x.scale + 1074).toNat = x.scale.toNat + 1074 := by omega
    rw [magnitude, he, Nat.pow_add, Nat.pow_eq, Nat.mul_assoc]
  split at h
  · cases h
  split at h
  · -- a part of it is, but it is zero
    rename_i hneg _ hd
    cases h
    refine ⟨_, rfl, ?_⟩
    have he : 1074 = (-x.scale).toNat + (x.scale + 1074).toNat := by omega
    rw [magnitude, he, Nat.pow_add, ← Nat.mul_assoc]
    rw [Nat.pow_eq] at hd ⊢
    rw [Nat.div_mul_cancel (Nat.dvd_of_mod_eq_zero hd)]
  · cases h

lemma units_of_toInt? {x : Double} {i : Int} (h : x.toInt? = some i) :
    x.isFinite = true ∧ x.units = i * 2 ^ 1074 := by
  obtain ⟨hfin, n, rfl, hn⟩ := exists_natAbs_of_toInt? h
  refine ⟨hfin, ?_⟩
  unfold units
  rw [← hn]
  split <;> simp only [Nat.cast_mul, Nat.cast_pow, Nat.cast_ofNat, Int.neg_mul]

/-- Doubles that equal one integer are the same number. -/
lemma same_of_toInt? {x y : Double} {i : Int} (hx : x.toInt? = some i) (hy : y.toInt? = some i) :
    x.same y = true := by
  obtain ⟨hfx, hux⟩ := units_of_toInt? hx
  obtain ⟨hfy, huy⟩ := units_of_toInt? hy
  exact same_of_units hfx hfy (hux.trans huy.symm)

lemma toInt?_of_isZero {x : Double} (h : x.isZero = true) : x.toInt? = some 0 := by
  simp only [isZero, Bool.and_eq_true, beq_iff_eq] at h
  simp [toInt?, h.1, h.2]

/-! ### Not-a-numbers -/

/-- The double without the tag that tells a not-a-number from the others. -/
def untagged : Double → Double
  | .nan _ => .nan 0
  | x => x

/-- A function of doubles that takes all not-a-numbers for one. -/
def Blends (f : Double → Double) : Prop := ∀ i j, f (.nan i) = f (.nan j)

lemma blends_untagged : Blends untagged := fun _ _ => rfl

end Double

/-- Doubles are equal values exactly if they are the same number. -/
@[simp] lemma Value.same_float (x y : Double) : (float x).same (float y) = x.same y := by
  have hdef : (float x).same (float y) =
      (x.toInt?.elim (Quantity.other x) .whole == y.toInt?.elim (.other y) .whole) := rfl
  rw [hdef, Bool.eq_iff_iff, beq_iff_eq]
  constructor
  · intro h
    rcases hx : x.toInt? with _ | i <;> rcases hy : y.toInt? with _ | j <;> rw [hx, hy] at h <;>
      simp only [Option.elim_none, Option.elim_some, Quantity.other.injEq, Quantity.whole.injEq,
        reduceCtorEq] at h
    · simp [h]
    · subst h
      exact Double.same_of_toInt? hx hy
  · intro h
    simp only [Double.same, Bool.or_eq_true, decide_eq_true_eq, Bool.and_eq_true] at h
    rcases h with rfl | ⟨hx, hy⟩
    · rfl
    · rw [Double.toInt?_of_isZero hx, Double.toInt?_of_isZero hy]
      rfl

end LayoutTree
