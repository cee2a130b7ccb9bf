import LayoutTree.Proofs.Reads

/-!
What values stand for where a number, a count, a member of a choice, a dimension or a spacing is
asked for, said without the readers; and that just this is read.

What is made new while something is read is left open: the identity of a dimension or of a spacing
that a dict is read as, and the tag of a number that is written not to be one.
-/

namespace LayoutTree

open Reading

namespace Value

/-! ### Texts and numbers -/

/-- The text is written in the value: it is the text itself, a member of a choice that has it, or
the bytes that encode it. -/
inductive Writes : Value → String → Prop
  | text {v : Value} {t : Text} {s : String} : v.text? = some t → t.string? = some s → Writes v s
  | bytes {bs : List UInt8} {s : String} :
      String.fromUTF8? (ByteArray.mk bs.toArray) = some s → Writes (.bytes bs) s

lemma legible?_eq_ok_iff {kind : IssueKind} {v : Value} {s : String} :
    v.legible? kind = some (.ok s) ↔ v.Writes s := by
  constructor
  · intro h
    unfold legible? at h
    split at h
    · split at h <;> cases h
      exact .bytes ‹_›
    · obtain ⟨t, ht, h⟩ := Option.map_eq_some_iff.1 h
      split at h <;> cases h
      exact .text ht ‹_›
  · rintro (⟨ht, hs⟩ | hs)
    · cases v <;> cases ht <;> simp [legible?, text?, hs]
    · simp [legible?, hs]

/-- What is read from a text is read from what the value writes. -/
lemma reads_fromText_iff {α : Type} {wrongType wrongText : IssueKind} {r : String → Reading α}
    {v : Value} {a : α} :
    (v.fromText wrongType wrongText r).Reads a ↔ ∃ s, v.Writes s ∧ (r s).Reads a := by
  simp only [← @legible?_eq_ok_iff wrongText]
  unfold fromText
  constructor
  · intro h
    split at h
    · exact ⟨_, ‹_›, h.atMost⟩
    · exact h.refuse.elim
    · exact h.refuse.elim
  · rintro ⟨s, hs, h⟩
    rw [hs]
    exact h.bounded _

/-- A value stands for a double: it is the double itself, a whole number or a truth value that is
converted to it, or the double is written in it. -/
inductive IsNumber : Value → Double → Prop
  | float (x : Double) : IsNumber (.float x) x
  | int {i : Int} : (Double.ofInt i).isFinite = true → IsNumber (.int i) (.ofInt i)
  | bool (b : Bool) : IsNumber (.bool b) (.ofInt (if b then 1 else 0))
  | written {v : Value} {s : String} {x : Double} : v.Writes s → Numeral.double? s = some x →
      (∀ tag, x ≠ .nan tag) → IsNumber v x
  | notANumber {v : Value} {s : String} {tag : Nat} (tag' : Nat) : v.Writes s →
      Numeral.double? s = some (.nan tag) → IsNumber v (.nan tag')

lemma Writes.number_eq {v : Value} {s : String} (h : v.Writes s) :
    v.number = v.fromText .notNumber .notNumeral fun s =>
      (Numeral.double? s).elim (refuse .notNumeral) tagged := by
  cases h with
  | text ht => cases v <;> cases ht <;> rfl
  | bytes => rfl

lemma reads_number_iff {v : Value} {x : Double} : v.number.Reads x ↔ v.IsNumber x := by
  constructor
  · intro h
    unfold number at h
    split at h
    · -- a number
      cases h.pure
      exact .float _
    · -- a truth value
      cases (Reads.atMost h).pure
      exact .bool _
    · -- an integer
      obtain ⟨hx, hfinite⟩ := h.atMost.check
      cases hx.pure
      exact .int hfinite
    · -- a text or bytes
      obtain ⟨s, hs, h⟩ := reads_fromText_iff.1 h
      rcases hd : Numeral.double? s with _ | y <;> rw [hd] at h
      · exact h.refuse.elim
      · cases y with
        | nan tag =>
          obtain ⟨tag', -, rfl⟩ := h.map
          exact .notANumber tag' hs hd
        | _ =>
          cases h.pure
          exact .written hs hd nofun
  · -- the other way round
    rintro (x | hfinite | b | ⟨hs, hd, hx⟩ | ⟨tag', hs, hd⟩)
    · exact reads_pure x
    · exact ((reads_pure _).checked hfinite _).bounded _
    · exact (reads_pure _).bounded _
    · rw [hs.number_eq]
      refine reads_fromText_iff.2 ⟨_, hs, ?_⟩
      rw [hd]
      cases x with
      | nan tag => exact absurd rfl (hx tag)
      | _ => exact reads_pure _
    · rw [hs.number_eq]
      refine reads_fromText_iff.2 ⟨_, hs, ?_⟩
      rw [hd]
      exact ⟨0, .exact, tag' + 1, tag', rfl⟩

lemma isNumber_int_iff {i : Int} {x : Double} :
    (Value.int i).IsNumber x ↔ (Double.ofInt i).isFinite = true ∧ x = .ofInt i := by
  constructor
  · rintro (_ | h | _ | ⟨⟨ht⟩, -⟩ | ⟨_, ⟨ht⟩, -⟩)
    · exact ⟨h, rfl⟩
    · cases ht
    · cases ht
  · rintro ⟨h, rfl⟩
    exact .int h

/-! ### Counts -/

/-- A value stands for a whole number: it is the number, a truth value or a double that equals it,
or the number is written in it. -/
inductive Denotes : Value → Int → Prop
  | int (n : Int) : Denotes (.int n) n
  | bool (b : Bool) : Denotes (.bool b) (if b then 1 else 0)
  | float {x : Double} {n : Int} : x.toInt? = some n → Denotes (.float x) n
  | written {v : Value} {s : String} {n : Int} : v.legible? .notWholeNumeral = some (.ok s) →
      Numeral.int? s = some n → Denotes v n

/-- A value stands for a whole number that can be read: a double is within the range of 64 bits,
and what is written has not too many digits. -/
structure IsWhole (v : Value) (n : Int) : Prop where
  denotes : v.Denotes n
  ofDouble : ∀ x, v = .float x → -wordLimit < n ∧ n < wordLimit
  ofText : ∀ s, v.Writes s → Numeral.isOverlong s = false

/-- A value stands for a number of copies. -/
def IsCount (v : Value) (n : Int) : Prop := v.IsWhole n ∧ 1 ≤ n

lemma reads_wholeOfDouble_iff {x : Double} {n : Int} :
    (wholeOfDouble x).Reads n ↔ x.toInt? = some n ∧ -wordLimit < n ∧ n < wordLimit := by
  unfold wholeOfDouble
  constructor
  · intro h
    split at h
    · exact h.refuse.elim
    split at h
    · obtain ⟨hn, hrange⟩ := h.check
      cases (Reads.atMost hn).pure
      exact ⟨‹_›, by simpa using hrange⟩
    · exact h.refuse.elim
  · rintro ⟨hn, hrange⟩
    have hfinite : x.isFinite = true := by
      by_contra hx
      simp [Double.toInt?, hx] at hn
    rw [if_neg (by simp [hfinite])]
    simp only [hn]
    exact ((reads_pure n).bounded _).checked (by simpa using hrange) _

lemma reads_wholeOfText_iff {s : String} {n : Int} :
    (wholeOfText s).Reads n ↔ Numeral.isOverlong s = false ∧ Numeral.int? s = some n := by
  unfold wholeOfText
  constructor
  · intro h
    split at h
    · exact h.refuse.elim
    · rename_i hlong
      rcases hi : Numeral.int? s with _ | i <;> rw [hi] at h
      · exact h.refuse.elim
      · cases h.pure
        exact ⟨by simpa using hlong, rfl⟩
  · rintro ⟨hs, hn⟩
    rw [if_neg (by simp [hs]), hn]
    exact reads_pure n

lemma Writes.whole_eq {v : Value} {s : String} (h : v.Writes s) :
    v.whole = .int <$> v.fromText .notWhole .notWholeNumeral wholeOfText := by
  cases h with
  | text ht => cases v <;> cases ht <;> rfl
  | bytes => rfl

lemma Writes.unique {v : Value} {s t : String} (hs : v.Writes s) (ht : v.Writes t) : s = t := by
  rw [← @legible?_eq_ok_iff .notText] at hs ht
  rw [hs] at ht
  cases ht
  rfl

lemma reads_whole_iff {x v : Value} (hx : ∀ k, x ≠ .setting k) :
    x.whole.Reads v ↔ ∃ n, v = .int n ∧ x.IsWhole n := by
  constructor
  · intro h
    unfold whole at h
    split at h
    · -- an integer
      cases h.pure
      exact ⟨_, rfl, .int _, nofun, nofun⟩
    · -- a truth value
      cases (Reads.atMost h).pure
      exact ⟨_, rfl, .bool _, nofun, nofun⟩
    · -- a number
      obtain ⟨n, hn, rfl⟩ := h.map
      obtain ⟨hn, hrange⟩ := reads_wholeOfDouble_iff.1 hn
      exact ⟨n, rfl, .float hn, fun _ _ => hrange, nofun⟩
    · -- a setting
      exact absurd rfl (hx _)
    · -- a text or bytes
      obtain ⟨n, hn, rfl⟩ := h.map
      obtain ⟨s, hs, hn⟩ := reads_fromText_iff.1 hn
      obtain ⟨hlong, hn⟩ := reads_wholeOfText_iff.1 hn
      refine ⟨n, rfl, .written (legible?_eq_ok_iff.2 hs) hn, ?_, ?_⟩
      · rintro y rfl
        cases hs with
        | text ht => cases ht
      · intro t ht
        rwa [ht.unique hs]
  · rintro ⟨n, rfl, hdenotes, hdouble, htext⟩
    cases hdenotes with
    | int => exact reads_pure _
    | bool b => exact (reads_pure _).bounded _
    | float hn => exact (reads_wholeOfDouble_iff.2 ⟨hn, hdouble _ rfl⟩).mapped _
    | written hs hn =>
      have hs := legible?_eq_ok_iff.1 hs
      rw [hs.whole_eq]
      exact Reads.mapped
        (reads_fromText_iff.2 ⟨_, hs, reads_wholeOfText_iff.2 ⟨htext _ hs, hn⟩⟩) _

lemma reads_count_iff {x v : Value} : x.count.Reads v ↔ ∃ n, v = .int n ∧ x.IsCount n := by
  unfold count
  split
  · constructor
    · intro h
      exact h.refuse.elim
    · rintro ⟨n, -, ⟨hdenotes, -, -⟩, -⟩
      cases hdenotes with
      | written hs => cases hs
  · rename_i hx
    constructor
    · intro h
      obtain ⟨hwhole, hpositive⟩ := h.check
      obtain ⟨n, rfl, hn⟩ := (reads_whole_iff hx).1 hwhole
      exact ⟨n, rfl, hn, of_decide_eq_true hpositive⟩
    · rintro ⟨n, rfl, hn, hpositive⟩
      exact ((reads_whole_iff hx).2 ⟨n, rfl, hn⟩).checked (decide_eq_true hpositive) _

/-! ### Members of choices -/

/-- A value stands for a member of a choice: it is the member, or its text is written in it. -/
inductive IsMember {α : Type} (toValue : α → Value) (ofText? : Text → Option α) :
    Value → α → Prop
  | member (a : α) : IsMember toValue ofText? (toValue a) a
  | written {v : Value} {s : String} {a : α} : v.Writes s → ofText? s = some a →
      IsMember toValue ofText? v a

def IsDirection : Value → Direction → Prop := IsMember .direction Direction.ofText?

def IsDimensionMode : Value → DimensionMode → Prop :=
  IsMember .dimensionMode DimensionMode.ofText?

def IsSpacingMode : Value → SpacingMode → Prop := IsMember .spacingMode SpacingMode.ofText?

section Members

variable {α : Type} {ofText? : Text → Option α} {v : Value} {a : α}

lemma reads_member_iff :
    (v.member ofText?).Reads a ↔ ∃ s : String, v.Writes s ∧ ofText? s = some a := by
  unfold member
  rw [reads_fromText_iff]
  refine exists_congr fun s => and_congr_right fun _ => ?_
  rcases ofText? s with _ | b
  · exact ⟨fun h => h.refuse.elim, nofun⟩
  · refine ⟨fun h => ?_, fun h => ?_⟩
    · rw [Reads.pure h]
    · rw [Option.some.inj h]
      exact reads_pure a

/-- A member is read as itself, and everything else by its text. -/
lemma reads_iff_isMember {toValue : α → Value} {read : Value → Reading α}
    (hself : ∀ a, read (toValue a) = pure a)
    (hother : ∀ v, (∀ a, v ≠ toValue a) → read v = v.member ofText?)
    (hvalue : Function.Injective toValue)
    (htext : ∀ a s, (toValue a).Writes s → ofText? s = some a) :
    (read v).Reads a ↔ IsMember toValue ofText? v a := by
  by_cases hv : ∃ b, v = toValue b
  · obtain ⟨b, rfl⟩ := hv
    rw [hself]
    constructor
    · intro h
      rw [Reads.pure h]
      exact .member b
    · intro h
      suffices a = b from this ▸ reads_pure b
      generalize hw : toValue b = w at h
      cases h with
      | member => exact (hvalue hw).symm
      | written hs ha =>
        rw [← hw] at hs
        exact Option.some.inj (ha.symm.trans (htext b _ hs))
  · simp only [not_exists] at hv
    rw [hother v hv, reads_member_iff]
    constructor
    · rintro ⟨s, hs, ha⟩
      exact .written hs ha
    · rintro (_ | ⟨hs, ha⟩)
      · exact absurd rfl (hv a)
      · exact ⟨_, hs, ha⟩

end Members

lemma reads_direction_iff {v : Value} {d : Direction} :
    v.readDirection.Reads d ↔ v.IsDirection d := by
  refine reads_iff_isMember (fun _ => rfl) (fun v hv => ?_) (fun _ _ h => by cases h; rfl)
    fun d s hs => ?_
  · cases v <;> first | rfl | exact absurd rfl (hv _)
  · cases hs with
    | text ht hs =>
      cases ht
      cases d <;> cases hs <;> rfl

lemma reads_dimensionMode_iff {v : Value} {m : DimensionMode} :
    v.readDimensionMode.Reads m ↔ v.IsDimensionMode m := by
  refine reads_iff_isMember (fun _ => rfl) (fun v hv => ?_) (fun _ _ h => by cases h; rfl)
    fun m s hs => ?_
  · cases v <;> first | rfl | exact absurd rfl (hv _)
  · cases hs with
    | text ht hs =>
      cases ht
      cases m <;> cases hs <;> rfl

lemma reads_spacingMode_iff {v : Value} {m : SpacingMode} :
    v.readSpacingMode.Reads m ↔ v.IsSpacingMode m := by
  refine reads_iff_isMember (fun _ => rfl) (fun v hv => ?_) (fun _ _ h => by cases h; rfl)
    fun m s hs => ?_
  · cases v <;> first | rfl | exact absurd rfl (hv _)
  · cases hs with
    | text ht hs =>
      cases ht
      cases m <;> cases hs <;> rfl

/-! ### Dimensions and spacings -/

/-- A value stands for a dimension: it is the dimension itself, or a dict with its mode and its
number. -/
inductive IsDimension : Value → Dimension → Prop
  | dimension (d : Dimension) : IsDimension (.dimension d) d
  | dict {id : Nat} {fs : Fields} {v w : Value} {m : DimensionMode} {x : Double} (i : Nat) :
      fs.get? "mode" = some v → v.IsDimensionMode m → fs.get? "value" = some w → w.IsNumber x →
      IsDimension (.dict id fs) ⟨i, m, x⟩

/-- A value stands for a spacing: it is the spacing itself, or a dict with its mode and its
number. -/
inductive IsSpacing : Value → Spacing → Prop
  | spacing (g : Spacing) : IsSpacing (.spacing g) g
  | dict {id : Nat} {fs : Fields} {v w : Value} {m : SpacingMode} {x : Double} (i : Nat) :
      fs.get? "mode" = some v → v.IsSpacingMode m → fs.get? "value" = some w → w.IsNumber x →
      IsSpacing (.dict id fs) ⟨i, m, x⟩

/-- A value stands for a spacing, or for none. -/
inductive IsOptionalSpacing : Value → Option Spacing → Prop
  | null : IsOptionalSpacing .null none
  | spacing {v : Value} {g : Spacing} : v.IsSpacing g → IsOptionalSpacing v (some g)

section Measures

variable {α β : Type} {fs : Fields} {f : Nat → α → Double → β} {readMode : Value → Reading α}

/-- A mode and a number are read from their fields. -/
lemma reads_measure {b : β}
    (h : (f <$> made <*> required fs "mode" readMode <*> required fs "value" number).Reads b) :
    ∃ i v m w x, fs.get? "mode" = some v ∧ (readMode v).Reads m ∧ fs.get? "value" = some w ∧
      w.IsNumber x ∧ b = f i m x := by
  obtain ⟨_, x, h₁, hx, rfl⟩ := h.seq
  obtain ⟨_, m, h₂, hm, rfl⟩ := h₁.seq
  obtain ⟨i, -, rfl⟩ := h₂.map
  obtain ⟨v, hv, hm⟩ := hm.required
  obtain ⟨w, hw, hx⟩ := hx.required
  exact ⟨i, v, m, w, x, hv, hm, hw, reads_number_iff.1 hx, rfl⟩

lemma exists_reads_measure {v w : Value} {m : α} {x : Double} (hd : ∀ v, (readMode v).Decided)
    (hv : fs.get? "mode" = some v) (hm : (readMode v).Reads m) (hw : fs.get? "value" = some w)
    (hx : w.IsNumber x) :
    ∃ b, (f <$> made <*> required fs "mode" readMode <*> required fs "value" number).Reads b :=
  exists_reads_seq (.required decided_number)
    (exists_reads_seq (.required hd) exists_reads_made (exists_reads_required hv ⟨m, hm⟩))
    (exists_reads_required hw ⟨x, reads_number_iff.2 hx⟩)

end Measures

lemma isDimension_of_reads {v : Value} {d : Dimension} (h : v.readDimension.Reads d) :
    v.IsDimension d := by
  unfold readDimension at h
  split at h
  · cases h.pure
    exact .dimension _
  · obtain ⟨i, v, m, w, x, hv, hm, hw, hx, rfl⟩ := reads_measure h
    exact .dict i hv (reads_dimensionMode_iff.1 hm) hw hx
  · exact h.refuse.elim

lemma isDimension_dimension_iff {d e : Dimension} :
    (Value.dimension d).IsDimension e ↔ e = d := by
  constructor
  · rintro ⟨⟩
    rfl
  · rintro rfl
    exact .dimension e

/-- What stands for a dimension is read as one. -/
lemma exists_reads_dimension {v : Value} {d : Dimension} (h : v.IsDimension d) :
    ∃ e, v.readDimension.Reads e := by
  cases h with
  | dimension => exact ⟨d, reads_pure d⟩
  | dict i hv hm hw hx =>
    exact exists_reads_measure decided_readDimensionMode hv (reads_dimensionMode_iff.2 hm) hw hx

lemma isOptionalSpacing_of_reads {v g : Value} (h : (orNull readSpacing v).Reads g) :
    ∃ o, v.IsOptionalSpacing o ∧ g = .ofOption .spacing o := by
  unfold orNull at h
  split at h
  · cases h.pure
    exact ⟨none, .null, rfl⟩
  unfold readSpacing at h
  split at h
  · cases h.pure
    exact ⟨_, .spacing (.spacing _), rfl⟩
  · obtain ⟨g, hg, rfl⟩ := h.map
    obtain ⟨i, v, m, w, x, hv, hm, hw, hx, rfl⟩ := reads_measure hg
    exact ⟨_, .spacing (.dict i hv (reads_spacingMode_iff.1 hm) hw hx), rfl⟩
  · exact h.refuse.elim

/-- What stands for a spacing or for none is read. -/
lemma exists_reads_optionalSpacing {v : Value} {o : Option Spacing} (h : v.IsOptionalSpacing o) :
    ∃ g, (orNull readSpacing v).Reads g := by
  cases h with
  | null => exact ⟨.null, reads_pure _⟩
  | spacing h =>
    cases h with
    | spacing => exact ⟨_, reads_pure _⟩
    | dict i hv hm hw hx =>
      exact exists_reads_map
        (exists_reads_measure decided_readSpacingMode hv (reads_spacingMode_iff.2 hm) hw hx)

end Value

end LayoutTree
