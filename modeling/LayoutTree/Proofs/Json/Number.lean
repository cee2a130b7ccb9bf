import LayoutTree.Json.Printer
import LayoutTree.Proofs.Json.Numeral

/-!
Integers and finite doubles are written as numerals, and integers are read back.
-/

namespace LayoutTree

/-! ### Shortest digits -/

namespace Shortest

/-- Zero lies outside the interval of a positive double. -/
lemma Target.neighbour?_ne_zero {t : Target} (h : t.below < t.num) {d : Nat}
    (hd : t.neighbour? = some d) : d ≠ 0 := by
  have hzero : t.within (t.num - t.num / t.den * t.den) t.below = true → t.num / t.den ≠ 0 := by
    intro hw hz
    rw [hz, Nat.zero_mul, Nat.sub_zero, within] at hw
    split at hw <;> simp at hw <;> omega
  unfold neighbour? at hd
  dsimp only at hd
  generalize t.num / t.den = q at hd hzero
  split at hd
  · rename_i hw _
    have hq := hzero hw
    cases hd
    split
    · exact hq
    · split <;> omega
  · rename_i hw _
    cases hd
    exact hzero hw
  · cases hd
    exact Nat.succ_ne_zero _
  · cases hd

lemma trimmed_ne_zero (n : Nat) {d : Nat} (h : d ≠ 0) (g : Int) : (trimmed n d g).1 ≠ 0 := by
  induction n generalizing d g with
  | zero => exact h
  | succ n ih =>
    rw [trimmed]
    split
    · exact ih (by omega) _
    · exact h

lemma Target.inUnits_lt {t : Target} (h : t.below < t.num) (g : Int) :
    (t.inUnits g).below < (t.inUnits g).num :=
  Nat.mul_lt_mul_of_pos_right h (Nat.pow_pos (by decide))

lemma search_ne_zero {t : Target} (h : t.below < t.num) (p : Int) (n k : Nat) :
    (search t p n k).1 ≠ 0 := by
  induction n generalizing k with
  | zero =>
    rw [search]
    exact trimmed_ne_zero _ (by have := Target.inUnits_lt h (p - k); omega) _
  | succ n ih =>
    rw [search]
    split
    · rename_i hd
      exact trimmed_ne_zero _ (Target.neighbour?_ne_zero (Target.inUnits_lt h _) hd) _
    · exact ih (k + 1)

lemma Target.of_lt {x : Double} (h : x.significand ≠ 0) : (of x).below < (of x).num := by
  unfold of
  dsimp only
  refine Nat.mul_lt_mul_of_pos_right ?_ (Nat.pow_pos (by decide))
  split <;> omega

lemma digits_ne_zero {x : Double} (h : x.significand ≠ 0) : (digits x).1 ≠ 0 :=
  search_ne_zero (Target.of_lt h) _ _ _

end Shortest

/-! ### Digits of whole numbers -/

namespace Json

lemma areDigits_toDigits (n : Nat) : AreDigits (Nat.toDigits 10 n) :=
  ⟨Nat.toDigits_ne_nil, fun _ hc => Nat.isDigit_of_mem_toDigits (by decide) (by decide) hc⟩

lemma head_toDigits {n : Nat} (h : n ≠ 0) : (Nat.toDigits 10 n).head? ≠ some '0' := by
  induction n using Nat.strongRecOn with
  | ind n ih =>
    by_cases hn : n < 10
    · rw [Nat.toDigits_of_lt_base hn]
      intro hd
      have hn' := Nat.toNat_digitChar_of_lt_ten hn
      rw [Option.some.inj hd] at hn'
      exact h (by simpa using hn')
    · have hdiv : n / 10 ≠ 0 := by omega
      have hhead := ih _ (by omega) hdiv
      have hne : Nat.toDigits 10 (n / 10) ≠ [] := Nat.toDigits_ne_nil
      obtain ⟨c, cs, hcs⟩ := List.exists_cons_of_ne_nil hne
      rw [Nat.toDigits_of_base_le (by decide) (by omega), hcs]
      rwa [hcs] at hhead

lemma isWhole_toDigits (n : Nat) : IsWhole (Nat.toDigits 10 n) := by
  refine ⟨areDigits_toDigits n, ?_⟩
  by_cases h : n = 0
  · exact .inl (by rw [h, Nat.toDigits_zero])
  · exact .inr (head_toDigits h)

/-- An integer is written with its digits, after a minus sign if it is negative. -/
lemma exists_toString (i : Int) : ∃ sign, (sign = [] ∨ sign = ['-']) ∧
    (toString i).toList = sign ++ Nat.toDigits 10 i.natAbs ∧
    integer (sign == ['-']) (Nat.toDigits 10 i.natAbs) = i := by
  have hvalue : Numeral.value (Nat.toDigits 10 i.natAbs) = i.natAbs :=
    Nat.ofDigitChars_ten_toDigits
  cases i with
  | ofNat m =>
    refine ⟨[], .inl rfl, Nat.toList_repr, ?_⟩
    rw [integer, hvalue]
    rfl
  | negSucc m =>
    refine ⟨['-'], .inr rfl, ?_, ?_⟩
    · change ("-" ++ (m + 1).repr).toList = _
      rw [String.toList_append, Nat.toList_repr]
      rfl
    · rw [integer, hvalue]
      rfl

lemma isNumeral_int (i : Int) : IsNumeral (toString i).toList := by
  obtain ⟨sign, hs, ht, -⟩ := exists_toString i
  rw [ht]
  simpa using IsNumeral.mk hs (isWhole_toDigits i.natAbs) .none .none

/-- An integer is read back. -/
lemma value?_int (i : Int) (n : Nat) {rest : List Char} (hr : NumeralEnds rest) :
    value? (n + 1) ((toString i).toList ++ rest) = some (.int i, rest) := by
  obtain ⟨sign, hs, ht, hi⟩ := exists_toString i
  obtain ⟨x, hx, hread⟩ := exists_value hs (isWhole_toDigits i.natAbs) .none .none
  rw [hi] at hx
  rw [ht, ← hx rfl rfl]
  simpa using hread n rest hr

/-! ### Doubles -/

lemma isWhole_zero : IsWhole ['0'] := ⟨⟨by simp, by simp⟩, .inl rfl⟩

lemma toList_zeros (n : Int) : (NumberStyle.zeros n).toList = List.replicate n.toNat '0' :=
  String.toList_ofList

/-- Zeros may stand in front of digits and behind them. -/
lemma AreDigits.zeros_append {ds : List Char} (h : AreDigits ds) (n : Nat) :
    AreDigits (List.replicate n '0' ++ ds) := by
  refine ⟨by simp [h.1], fun c hc => ?_⟩
  rcases List.mem_append.1 hc with hc | hc
  · rw [(List.mem_replicate.1 hc).2]
    rfl
  · exact h.2 c hc

lemma AreDigits.append_zeros {ds : List Char} (h : AreDigits ds) (n : Nat) :
    AreDigits (ds ++ List.replicate n '0') := by
  refine ⟨by simp [h.1], fun c hc => ?_⟩
  rcases List.mem_append.1 hc with hc | hc
  · exact h.2 c hc
  · rw [(List.mem_replicate.1 hc).2]
    rfl

lemma AreDigits.drop {ds : List Char} (h : AreDigits ds) {n : Nat} (hn : n < ds.length) :
    AreDigits (ds.drop n) :=
  ⟨fun hd => by simp at hd; omega, fun c hc => h.2 c (List.mem_of_mem_drop hc)⟩

/-- The first digits of a positive number are a whole number. -/
lemma isWhole_take {d : Nat} (h : d ≠ 0) {n : Nat} (hn : n ≠ 0) :
    IsWhole ((Nat.toDigits 10 d).take n) := by
  have hds := areDigits_toDigits d
  have hhead := head_toDigits h
  obtain ⟨c, cs, hcs⟩ := List.exists_cons_of_ne_nil hds.1
  obtain ⟨m, rfl⟩ := Nat.exists_eq_succ_of_ne_zero hn
  refine ⟨⟨by simp [hcs], fun c hc => hds.2 c (List.mem_of_mem_take hc)⟩, .inr ?_⟩
  rw [hcs] at hhead ⊢
  exact hhead

/-- The digits of a positive number, with a point among them or zeros up to it. -/
lemma exists_positional {d : Nat} (h : d ≠ 0) (point : Int) :
    ∃ ds fs, (NumberStyle.positional (toString d) point).toList = ds ++ fs ∧ IsWhole ds ∧
      IsFraction fs := by
  have hd : (toString d).toList = Nat.toDigits 10 d := Nat.toList_repr
  have hds := areDigits_toDigits d
  have hlength : (toString d).length = (Nat.toDigits 10 d).length := by
    rw [← String.length_toList, hd]
  unfold NumberStyle.positional
  split
  · refine ⟨['0'], '.' :: (List.replicate (-point).toNat '0' ++ Nat.toDigits 10 d), ?_,
      isWhole_zero, .point (hds.zeros_append _)⟩
    rw [String.toList_append, String.toList_append, hd, toList_zeros]
    rfl
  split
  · -- the point is within the digits
    refine ⟨(Nat.toDigits 10 d).take point.toNat, '.' :: (Nat.toDigits 10 d).drop point.toNat, ?_,
      isWhole_take h (by omega), .point (hds.drop (by omega))⟩
    rw [String.toList_append, String.toList_append, String.toList_ofList, String.toList_ofList, hd]
    simp
  · -- it is after them
    refine ⟨Nat.toDigits 10 d ++ List.replicate (point - (toString d).length).toNat '0',
      ['.', '0'], ?_, ⟨hds.append_zeros _, .inr ?_⟩, .point isWhole_zero.1⟩
    · rw [String.toList_append, String.toList_append, hd, toList_zeros]
      rfl
    · obtain ⟨c, cs, hcs⟩ := List.exists_cons_of_ne_nil hds.1
      have hhead := head_toDigits h
      rw [hcs] at hhead ⊢
      exact hhead

/-- The size of an exponent has at least two digits. -/
lemma areDigits_size (n : Nat) : AreDigits
    (if (toString n).length < 2 then "0" ++ toString n else toString n).toList := by
  have hn : (toString n).toList = Nat.toDigits 10 n := Nat.toList_repr
  split
  · rw [String.toList_append, hn]
    exact (areDigits_toDigits n).zeros_append 1
  · rw [hn]
    exact areDigits_toDigits n

/-- The digits of a positive number, with a point after the first of them, and an exponent. -/
lemma exists_exponential {d : Nat} (h : d ≠ 0) (point : Int) :
    ∃ ds fs es, (NumberStyle.exponential (toString d) point).toList = ds ++ (fs ++ es) ∧
      IsWhole ds ∧ IsFraction fs ∧ IsPower es := by
  have hd : (toString d).toList = Nat.toDigits 10 d := Nat.toList_repr
  have hds := areDigits_toDigits d
  let tail := (Nat.toDigits 10 d).drop 1
  let size := toString (point - 1).natAbs
  refine ⟨(Nat.toDigits 10 d).take 1, if tail.isEmpty then [] else '.' :: tail,
    'e' :: ((if point - 1 < 0 then ['-'] else ['+']) ++
      (if size.length < 2 then "0" ++ size else size).toList), ?_,
    isWhole_take h Nat.one_ne_zero, ?_, .letter (.inl rfl) ?_ (areDigits_size _)⟩
  · -- how the text falls into parts
    have hempty : (String.ofList tail).isEmpty = tail.isEmpty := by
      rw [Bool.eq_iff_iff, String.isEmpty_iff, List.isEmpty_iff, String.ofList_eq_empty_iff]
    have hpoint : (if tail.isEmpty then "" else "." ++ String.ofList tail).toList =
        if tail.isEmpty then [] else '.' :: tail := by
      split <;> simp
    have hsign : (if point - 1 < 0 then "-" else "+").toList =
        if point - 1 < 0 then ['-'] else ['+'] := by
      split <;> rfl
    unfold NumberStyle.exponential
    simp only [String.toList_append, hd, String.toList_ofList, hsign]
    change _ ++ (if (String.ofList tail).isEmpty then "" else "." ++ String.ofList tail).toList
      ++ _ ++ _ ++ _ = _
    rw [hempty, hpoint]
    simp [size]
  · -- the fraction
    split
    · exact .none
    · rename_i htail
      exact .point ⟨by simpa using htail, fun c hc => hds.2 c (List.mem_of_mem_drop hc)⟩
  · -- the sign of the power
    split
    · exact .inr (.inr rfl)
    · exact .inr (.inl rfl)

lemma exists_magnitude (style : NumberStyle) {x : Double} (hx : x.isFinite = true) :
    ∃ ds fs es, (style.magnitude x).toList = ds ++ (fs ++ es) ∧ IsWhole ds ∧ IsFraction fs ∧
      IsPower es := by
  unfold NumberStyle.magnitude
  split
  · exact ⟨['0'], ['.', '0'], [], rfl, isWhole_zero, .point isWhole_zero.1, .none⟩
  · rename_i hzero
    have hd : (Shortest.digits x).1 ≠ 0 :=
      Shortest.digits_ne_zero fun h => hzero (by simp [Double.isZero, hx, h])
    dsimp only
    split
    · obtain ⟨ds, fs, hds, hfs, ht⟩ := exists_positional hd
        ((toString (Shortest.digits x).1).length + (Shortest.digits x).2)
      exact ⟨ds, fs, [], by simpa using hds, hfs, ht, .none⟩
    · exact exists_exponential hd _

/-- A finite double is written as a numeral. -/
lemma isNumeral_number {x : Double} (hx : x.isFinite = true) :
    IsNumeral (numbers.write x).toList := by
  cases x with
  | finite n e f =>
    obtain ⟨ds, fs, es, ht, hds, hfs, hes⟩ := exists_magnitude numbers hx
    have hwrite : (numbers.write (.finite n e f)).toList =
        (if n then ['-'] else []) ++ (ds ++ (fs ++ es)) := by
      rw [NumberStyle.write, String.toList_append, ht]
      cases n <;> rfl
    rw [hwrite]
    exact .mk (by cases n <;> simp) hds hfs hes
  | _ => cases hx

end Json

end LayoutTree
