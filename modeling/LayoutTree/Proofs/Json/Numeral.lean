import LayoutTree.Json.Reader
import Mathlib.Tactic.Lemma

/-!
Numerals: which texts they are, and that a numeral is read the same whatever follows it.
-/

namespace LayoutTree.Json

/-! ### Grammar -/

/-- One or more digits. -/
def AreDigits (ds : List Char) : Prop := ds ≠ [] ∧ ∀ c ∈ ds, c.isDigit = true

/-- Digits without a leading zero, or the zero alone. -/
def IsWhole (ds : List Char) : Prop := AreDigits ds ∧ (ds = ['0'] ∨ ds.head? ≠ some '0')

/-- A point with digits, or nothing. -/
inductive IsFraction : List Char → Prop
  | none : IsFraction []
  | point {ds : List Char} : AreDigits ds → IsFraction ('.' :: ds)

/-- A letter with digits that may have a sign, or nothing. -/
inductive IsPower : List Char → Prop
  | none : IsPower []
  | letter {c : Char} {sign ds : List Char} : c = 'e' ∨ c = 'E' →
      sign = [] ∨ sign = ['+'] ∨ sign = ['-'] → AreDigits ds → IsPower (c :: (sign ++ ds))

/-- A minus sign or none, a whole number, and what may follow it. -/
inductive IsNumeral : List Char → Prop
  | mk {sign ds fs es : List Char} : sign = [] ∨ sign = ['-'] → IsWhole ds → IsFraction fs →
      IsPower es → IsNumeral (sign ++ (ds ++ (fs ++ es)))

/-! ### Digits -/

/-- The text does not begin with a digit. -/
def NoDigitFirst (cs : List Char) : Prop := ∀ c ∈ cs.head?, c.isDigit = false

/-- The text does not begin with what could go on a numeral. -/
def NumeralEnds (cs : List Char) : Prop :=
  ∀ c ∈ cs.head?, c.isDigit = false ∧ c ≠ '.' ∧ c ≠ 'e' ∧ c ≠ 'E'

lemma NumeralEnds.noDigitFirst {cs : List Char} (h : NumeralEnds cs) : NoDigitFirst cs :=
  fun c hc => (h c hc).1

lemma takeWhile_of_noDigitFirst {cs : List Char} (h : NoDigitFirst cs) :
    cs.takeWhile Char.isDigit = [] := by
  cases cs with
  | nil => rfl
  | cons c cs => simp [h c rfl]

lemma dropWhile_of_noDigitFirst {cs : List Char} (h : NoDigitFirst cs) :
    cs.dropWhile Char.isDigit = cs := by
  cases cs with
  | nil => rfl
  | cons c cs => simp [h c rfl]

namespace AreDigits

variable {ds rest : List Char}

lemma takeWhile_append (h : AreDigits ds) (hr : NoDigitFirst rest) :
    (ds ++ rest).takeWhile Char.isDigit = ds := by
  rw [List.takeWhile_append_of_pos h.2, takeWhile_of_noDigitFirst hr, List.append_nil]

lemma dropWhile_append (h : AreDigits ds) (hr : NoDigitFirst rest) :
    (ds ++ rest).dropWhile Char.isDigit = rest := by
  rw [List.dropWhile_append_of_pos h.2, dropWhile_of_noDigitFirst hr]

lemma isEmpty (h : AreDigits ds) : ds.isEmpty = false := by
  simpa using h.1

lemma exists_cons (h : AreDigits ds) : ∃ d tail, ds = d :: tail ∧ d.isDigit = true := by
  obtain ⟨d, tail, rfl⟩ := List.exists_cons_of_ne_nil h.1
  exact ⟨d, tail, rfl, h.2 d List.mem_cons_self⟩

end AreDigits

/-- A digit is none of the other characters that a text may go on with. -/
lemma ne_of_isDigit {c d : Char} (hc : c.isDigit = true) (hd : d.isDigit = false) : c ≠ d := by
  rintro rfl
  rw [hc] at hd
  cases hd

/-! ### Reading -/

lemma whole?_append {ds rest : List Char} (h : IsWhole ds) (hr : NoDigitFirst rest) :
    whole? (ds ++ rest) = some (ds, rest) := by
  obtain ⟨hds, hzero⟩ := h
  unfold whole?
  simp only [hds.takeWhile_append hr, hds.dropWhile_append hr]
  split
  · exact absurd rfl hds.1
  · rename_i c cs
    rcases hzero with hz | hz
    · cases hz
    · exact absurd rfl hz
  · rfl

lemma fraction?_append {fs rest : List Char} (h : IsFraction fs) (hr : NoDigitFirst rest)
    (hp : rest.head? ≠ some '.') : fraction? (fs ++ rest) = some (fs.drop 1, rest) := by
  cases h with
  | none =>
    rw [List.nil_append, fraction?.eq_def]
    split
    · exact absurd rfl hp
    · rfl
  | point hds =>
    rw [List.cons_append, fraction?]
    simp only [hds.takeWhile_append hr, hds.dropWhile_append hr, hds.isEmpty]
    rfl

/-- The digits of an exponent follow their sign. -/
lemma signed_append {sign ds : List Char} (hs : sign = [] ∨ sign = ['+'] ∨ sign = ['-'])
    (hds : AreDigits ds) (rest : List Char) :
    Numeral.signed (sign ++ ds ++ rest) = (sign == ['-'], ds ++ rest) := by
  obtain ⟨d, tail, rfl, hd⟩ := hds.exists_cons
  rcases hs with rfl | rfl | rfl
  · rw [List.nil_append, List.cons_append, Numeral.signed.eq_def]
    split
    · rename_i h
      exact absurd (List.cons.inj h).1 (ne_of_isDigit hd rfl)
    · rename_i h
      exact absurd (List.cons.inj h).1 (ne_of_isDigit hd rfl)
    · rfl
  · rfl
  · rfl

/-- An exponent has one value, whatever follows it. -/
lemma exists_power {es : List Char} (h : IsPower es) : ∃ e : Option Int, (es = [] → e = none) ∧
    ∀ rest, NumeralEnds rest → power? (es ++ rest) = some (e, rest) := by
  cases h with
  | none =>
    refine ⟨none, fun _ => rfl, fun rest hr => ?_⟩
    cases rest with
    | nil => rfl
    | cons c rest =>
      obtain ⟨-, -, he, hE⟩ := hr c rfl
      simp [power?, he, hE]
  | @letter c sign ds hc hs hds =>
    refine ⟨some (if sign == ['-'] then -(Numeral.value ds : Int) else Numeral.value ds),
      fun h => (List.cons_ne_nil _ _ h).elim, fun rest hr => ?_⟩
    have hletter : (c == 'e' || c == 'E') = true := by simpa using hc
    rw [List.cons_append, power?, if_pos hletter, signed_append hs hds]
    simp only [hds.takeWhile_append hr.noDigitFirst, hds.dropWhile_append hr.noDigitFirst,
      hds.isEmpty]
    rfl

lemma IsPower.noDigitFirst {es rest : List Char} (h : IsPower es) (hr : NumeralEnds rest) :
    NoDigitFirst (es ++ rest) ∧ (es ++ rest).head? ≠ some '.' := by
  cases h with
  | none => exact ⟨hr.noDigitFirst, fun h => (hr '.' h).2.1 rfl⟩
  | letter hc hs hds =>
    rcases hc with rfl | rfl
    all_goals
      refine ⟨fun c h => ?_, by simp⟩
      cases h
      rfl

lemma IsFraction.noDigitFirst {fs rest : List Char} (h : IsFraction fs) (hr : NoDigitFirst rest) :
    NoDigitFirst (fs ++ rest) := by
  cases h with
  | none => exact hr
  | point hds =>
    intro c h
    cases h
    rfl

/-- The number of a sign and digits. -/
def integer (negative : Bool) (ds : List Char) : Int :=
  if negative then -(Numeral.value ds : Int) else Numeral.value ds

section Reading

variable {sign ds fs es : List Char}

/-- A numeral has one value, whatever follows it; without fraction and exponent it is whole. -/
lemma exists_unsigned (negative : Bool) (hds : IsWhole ds) (hfs : IsFraction fs)
    (hes : IsPower es) : ∃ x, (fs = [] → es = [] → x = .int (integer negative ds)) ∧
      ∀ rest, NumeralEnds rest →
        numeral? negative (ds ++ (fs ++ (es ++ rest))) = some (x, rest) := by
  obtain ⟨e, he, hpower⟩ := exists_power hes
  refine ⟨if (fs.drop 1).isEmpty && e.isNone then .int (integer negative ds)
    else .number (Double.ofDecimal negative (Numeral.value (ds ++ fs.drop 1))
      (e.getD 0 - (fs.drop 1).length)), ?_, fun rest hr => ?_⟩
  · rintro rfl hes
    rw [he hes]
    rfl
  · obtain ⟨hdigit, hpoint⟩ := hes.noDigitFirst hr
    unfold numeral?
    rw [whole?_append hds (hfs.noDigitFirst hdigit), Option.bind_eq_bind, Option.bind_some]
    dsimp only
    rw [fraction?_append hfs hdigit hpoint, Option.bind_eq_bind, Option.bind_some]
    dsimp only
    rw [hpower rest hr, Option.bind_some]
    dsimp only
    split <;> rfl

/-- Nothing but a number begins with a digit. -/
lemma value?_digit {d : Char} (hd : d.isDigit = true) (n : Nat) (cs : List Char) :
    value? (n + 1) (d :: cs) = numeral? false (d :: cs) := by
  have hspace : skipSpace (d :: cs) = d :: cs := by
    have h : isSpace d = false := by
      simp [isSpace, ne_of_isDigit hd]
    simp [skipSpace, h]
  rw [value?.eq_def]
  simp only [hspace]
  split <;> first
    | rfl
    | rename_i h
      exact absurd (List.cons.inj h).1 (ne_of_isDigit hd rfl)

lemma value?_minus {d : Char} (hd : d.isDigit = true) (n : Nat) (cs : List Char) :
    value? (n + 1) ('-' :: d :: cs) = numeral? true (d :: cs) := by
  have hspace : skipSpace ('-' :: d :: cs) = '-' :: d :: cs := rfl
  rw [value?.eq_def]
  simp only [hspace]
  split
  case h_7 h => cases h; rfl
  case h_11 h _ _ _ => exact (h _ rfl).elim
  all_goals
    rename_i h
    cases h
  cases hd

/-- A numeral is read as its value, whatever follows it. -/
lemma exists_value {sign : List Char} (hs : sign = [] ∨ sign = ['-']) (hds : IsWhole ds)
    (hfs : IsFraction fs) (hes : IsPower es) :
    ∃ x, (fs = [] → es = [] → x = .int (integer (sign == ['-']) ds)) ∧ ∀ n rest,
      NumeralEnds rest →
        value? (n + 1) (sign ++ (ds ++ (fs ++ (es ++ rest)))) = some (x, rest) := by
  obtain ⟨x, hx, hread⟩ := exists_unsigned (sign == ['-']) hds hfs hes
  refine ⟨x, hx, fun n rest hr => ?_⟩
  rw [← hread rest hr]
  obtain ⟨d, tail, rfl, hd⟩ := hds.1.exists_cons
  rcases hs with rfl | rfl
  · exact value?_digit hd n _
  · exact value?_minus hd n _

end Reading

lemma IsNumeral.exists_value {cs : List Char} (h : IsNumeral cs) :
    ∃ x, ∀ n rest, NumeralEnds rest → value? (n + 1) (cs ++ rest) = some (x, rest) := by
  cases h with
  | mk hs hds hfs hes =>
    obtain ⟨x, -, hread⟩ := Json.exists_value hs hds hfs hes
    exact ⟨x, fun n rest hr => by simpa using hread n rest hr⟩

end LayoutTree.Json
