import LayoutTree.Setting
import Mathlib.Data.List.DropRight
import Mathlib.Tactic.Lemma

/-!
Which texts are flags.

Letters beyond ASCII may have ASCII letters in their lower case, but none of those of the words for
yes and no. So a text is one of these words exactly if it is but for blanks around it and for the
case of ASCII letters.
-/

namespace LayoutTree

namespace Text

/-! ### Blanks around a text -/

section Strip

variable {p : Char → Bool} {f : Char → List Char} {cs : List Char}

lemma dropWhile_flatMap (hne : ∀ c, f c ≠ []) (hp : ∀ c, ∀ d ∈ f c, p d = p c) (cs : List Char) :
    (cs.flatMap f).dropWhile p = (cs.dropWhile p).flatMap f := by
  induction cs with
  | nil => rfl
  | cons c cs ih =>
    rw [List.flatMap_cons]
    cases hc : p c with
    | true =>
      rw [List.dropWhile_append_of_pos fun d hd => (hp c d hd).trans hc, ih,
        List.dropWhile_cons_of_pos hc]
    | false =>
      obtain ⟨d, ds, hds⟩ := List.exists_cons_of_ne_nil (hne c)
      have hd : p d = false := (hp c d (by simp [hds])).trans hc
      rw [List.dropWhile_cons_of_neg (by simp [hc]), List.flatMap_cons, hds, List.cons_append,
        List.dropWhile_cons_of_neg (by simp [hd])]

/-- What a character becomes is dropped if the character is. -/
lemma strip_flatMap (hne : ∀ c, f c ≠ []) (hp : ∀ c, ∀ d ∈ f c, p d = p c) (cs : List Char) :
    strip p (cs.flatMap f) = (strip p cs).flatMap f := by
  have hback : ∀ c, ∀ d ∈ (List.reverse ∘ f) c, p d = p c := fun c d hd =>
    hp c d (List.mem_reverse.1 hd)
  unfold strip
  rw [dropWhile_flatMap hne hp, List.reverse_flatMap,
    dropWhile_flatMap (fun c => by simpa using hne c) hback, List.reverse_flatMap]
  congr 1
  funext c
  exact List.reverse_reverse _

lemma strip_append {before after : List Char} (hb : ∀ c ∈ before ++ after, p c = true)
    (hcs : ∀ c ∈ cs, p c = false) : strip p (before ++ cs ++ after) = cs := by
  have hkeep : ∀ ds : List Char, (∀ d ∈ ds, p d = false) → ds.dropWhile p = ds := by
    rintro (_ | ⟨d, ds⟩) h
    · rfl
    · exact List.dropWhile_cons_of_neg (by simp [h d])
  have hback : ∀ ds : List Char, (∀ d ∈ ds, p d = false) →
      ((ds ++ after).reverse.dropWhile p).reverse = ds := by
    intro ds hds
    rw [List.reverse_append, List.dropWhile_append_of_pos fun c hc =>
      hb c (List.mem_append_right _ (List.mem_reverse.1 hc)),
      hkeep _ fun d hd => hds d (List.mem_reverse.1 hd), List.reverse_reverse]
  unfold strip
  rw [List.append_assoc, List.dropWhile_append_of_pos fun c hc => hb c (List.mem_append_left _ hc)]
  cases cs with
  | nil =>
    rw [List.nil_append, ← List.append_nil after,
      List.dropWhile_append_of_pos fun c hc => hb c (List.mem_append_right _ hc)]
    rfl
  | cons c cs =>
    rw [List.cons_append, List.dropWhile_cons_of_neg (by simp [hcs c]), ← List.cons_append]
    exact hback _ hcs

/-- A text is what is left of it between two rows of what is dropped. -/
lemma exists_append_strip (p : Char → Bool) (cs : List Char) :
    ∃ before after, cs = before ++ strip p cs ++ after ∧ ∀ c ∈ before ++ after, p c = true := by
  refine ⟨cs.takeWhile p, (cs.dropWhile p).rtakeWhile p, ?_, fun c hc => ?_⟩
  · have hstrip : strip p cs = (cs.dropWhile p).rdropWhile p := rfl
    rw [hstrip, List.append_assoc, List.rdropWhile_append_rtakeWhile,
      List.takeWhile_append_dropWhile]
  · rcases List.mem_append.1 hc with h | h
    · exact List.mem_takeWhile_imp h
    · exact List.mem_rtakeWhile_imp h

end Strip

/-! ### Lower case -/

/-- The code points of blanks and of information separators beyond ASCII, by the first and the last
of each row. -/
def foreignGaps : List (Nat × Nat) :=
  [(0x85, 0x85), (0xA0, 0xA0), (0x1680, 0x1680), (0x2000, 0x200A), (0x2028, 0x2029),
    (0x202F, 0x202F), (0x205F, 0x205F), (0x3000, 0x3000)]

/-- Code points from one to another of characters beyond ASCII, with no blank among them. -/
def areForeign (first last : Int) : Bool :=
  0x80 ≤ first && last < 0x110000 && (last < 0xD800 || 0xDFFF < first) &&
    foreignGaps.all fun g => last < g.1 || g.2 < first

lemma foreign_of_areForeign {first last n : Int} (h : areForeign first last = true)
    (hf : first ≤ n) (hl : n ≤ last) :
    0x80 ≤ (Char.ofNat n.toNat).toNat ∧ isGap (Char.ofNat n.toNat) = false := by
  simp only [areForeign, foreignGaps, List.all_cons, List.all_nil, Bool.and_true, Bool.and_eq_true,
    Bool.or_eq_true, decide_eq_true_eq] at h
  have hn : (Char.ofNat n.toNat).toNat = n.toNat := toNat_ofNat (by simp [isScalar]; omega)
  refine ⟨by omega, ?_⟩
  simp only [isGap, isBlank, hn, Bool.or_eq_false_iff, Bool.and_eq_false_iff, beq_eq_false_iff_ne,
    decide_eq_false_iff_not]
  omega

/-- The characters of a run are beyond ASCII and no blanks, and neither are those that they become,
but for the sign of the unit kelvin, which becomes an ASCII letter. -/
def CaseRun.isForeign (r : CaseRun) : Bool :=
  areForeign r.first r.last &&
    (areForeign (r.first + r.shift) (r.last + r.shift) ||
      (r.first + r.shift == 0x6B && r.last + r.shift == 0x6B))

lemma isForeign_lowerRuns : ∀ r ∈ lowerRuns, r.isForeign = true := by
  rw [← List.all_eq_true]
  decide +kernel

lemma lowerChar_of_ascii {c : Char} (h : c.toNat < 0x80) : lowerChar c = [c.toLower] := if_pos h

/-- What a character beyond ASCII becomes is a blank if the character is, and not all of it can
stand in a word of ASCII letters without a `k`. -/
lemma lowerChar_of_foreign {c : Char} (h : 0x80 ≤ c.toNat) :
    (∀ d ∈ lowerChar c, isGap d = isGap c) ∧ ∃ d ∈ lowerChar c, 0x80 ≤ d.toNat ∨ d = 'k' := by
  unfold lowerChar otherCase
  rw [if_neg (by omega)]
  split
  case h_1 ns hns =>
    have hc : c.toNat = 0x130 ∧ ns = [0x69, 0x307] := by
      rw [lowerExpansions, List.lookup_cons] at hns
      split at hns
      · next heq => exact ⟨beq_iff_eq.1 heq, (Option.some.inj hns).symm⟩
      · cases hns
    obtain rfl : c = Char.ofNat 0x130 := by rw [← hc.1, Char.ofNat_toNat]
    rw [hc.2]
    exact ⟨List.forall_mem_cons.2 ⟨by decide, List.forall_mem_singleton.2 (by decide)⟩,
      Char.ofNat 0x307, List.mem_cons_of_mem _ List.mem_cons_self, .inl (by decide)⟩
  case h_2 =>
    split
    case h_1 r hr =>
      have hf := isForeign_lowerRuns r (List.mem_of_find?_eq_some hr)
      have hin := List.find?_some hr
      simp only [CaseRun.isForeign, CaseRun.contains, Bool.and_eq_true, Bool.or_eq_true, beq_iff_eq,
        decide_eq_true_eq] at hf hin
      have hc : isGap c = false := by
        have := (foreign_of_areForeign hf.1 (n := c.toNat) (by omega) (by omega)).2
        rwa [Int.toNat_natCast, Char.ofNat_toNat] at this
      rcases hf.2 with hi | ⟨hlo, hhi⟩
      · have hd := foreign_of_areForeign hi (n := c.toNat + r.shift) (by omega) (by omega)
        exact ⟨by simp [hc, hd.2], by simp [hd.1]⟩
      · have hk : (c.toNat + r.shift).toNat = 0x6B := by omega
        rw [hk]
        exact ⟨by simp [hc]; decide, by simp⟩
    case h_2 => simp [h]

lemma toLower_of_foreign {c : Char} (h : 0x80 ≤ c.toNat) : c.toLower = c := by
  unfold Char.toLower
  rw [dif_neg]
  rintro ⟨-, hz⟩
  have : c.toNat ≤ 'Z'.toNat := hz
  have hz : 'Z'.toNat = 90 := rfl
  omega

lemma isGap_toLower (c : Char) : isGap c.toLower = isGap c := by
  rcases Nat.lt_or_ge c.toNat 0x80 with h | h
  · have hall : ∀ n < 0x80, isGap (Char.ofNat n).toLower = isGap (Char.ofNat n) := by decide
    simpa using hall c.toNat h
  · rw [toLower_of_foreign h]

lemma isGap_of_mem_lowerChar (c : Char) : ∀ d ∈ lowerChar c, isGap d = isGap c := by
  rcases Nat.lt_or_ge c.toNat 0x80 with h | h
  · simp [lowerChar_of_ascii h, isGap_toLower]
  · exact (lowerChar_of_foreign h).1

lemma lowerChar_ne_nil (c : Char) : lowerChar c ≠ [] := by
  rcases Nat.lt_or_ge c.toNat 0x80 with h | h
  · simp [lowerChar_of_ascii h]
  · obtain ⟨d, hd, -⟩ := (lowerChar_of_foreign h).2
    exact List.ne_nil_of_mem hd

/-- A word of ASCII letters without a `k` is the lower case of ASCII texts only. -/
lemma flatMap_lowerChar_eq_iff {cs ds : List Char} (hds : ∀ d ∈ ds, d.toNat < 0x80 ∧ d ≠ 'k') :
    cs.flatMap lowerChar = ds ↔ cs.map Char.toLower = ds := by
  have hsame : (∀ c ∈ cs, c.toNat < 0x80) → cs.flatMap lowerChar = cs.map Char.toLower := by
    intro h
    induction cs with
    | nil => rfl
    | cons c cs ih =>
      rw [List.flatMap_cons, List.map_cons, lowerChar_of_ascii (h c (by simp)),
        ih fun c' hc' => h c' (by simp [hc'])]
      rfl
  constructor
  · -- of a foreign character another one would be left, or a k
    rintro rfl
    refine (hsame fun c hc => ?_).symm
    by_contra hforeign
    obtain ⟨d, hd, hout⟩ := (lowerChar_of_foreign (Nat.le_of_not_lt hforeign)).2
    have := hds d (List.mem_flatMap.2 ⟨c, hc, hd⟩)
    rcases hout with hout | rfl
    · omega
    · exact this.2 rfl
  · -- a foreign character would stay as it is
    rintro rfl
    refine hsame fun c hc => ?_
    by_contra hforeign
    have := hds c.toLower (List.mem_map_of_mem hc)
    rw [toLower_of_foreign (Nat.le_of_not_lt hforeign)] at this
    exact hforeign this.1

/-! ### Words with blanks around them -/

/-- The text is a word but for blanks around it and for the case of ASCII letters. -/
def Spells (t : Text) (word : String) : Prop :=
  ∃ before cs after : List Char, t.points = (before ++ cs ++ after).map Char.toNat ∧
    (∀ c ∈ before ++ after, isGap c = true) ∧ cs.map Char.toLower = word.toList

lemma lower_eq {t : Text} {cs : List Char} (h : t.points = cs.map Char.toNat) :
    t.lower = plain (String.ofList (cs.flatMap lowerChar)) := by
  cases t with
  | plain s =>
    have hs : s.toList = cs := List.map_injective_iff.2 (fun _ _ => Char.toNat_inj.1) h
    rw [← hs]
    rfl
  | broken ns =>
    obtain rfl : ns = cs.map Char.toNat := h
    have hpoints : ((cs.map Char.toNat).flatMap fun n =>
        if isScalar n then (lowerChar (Char.ofNat n)).map Char.toNat else [n]) =
        (plain (String.ofList (cs.flatMap lowerChar))).points := by
      simp [points, List.flatMap_map, List.map_flatMap, isScalar_toNat]
    exact (congrArg ofPoints hpoints).trans (ofPoints_points_plain _)

/-- A text that has characters only in lower case has so before. -/
lemma exists_of_string?_lower {t : Text} {s : String} (h : t.lower.string? = some s) :
    ∃ cs : List Char, t.points = cs.map Char.toNat := by
  cases t with
  | plain s => exact ⟨s.toList, rfl⟩
  | broken ns =>
    refine ⟨ns.map Char.ofNat, ?_⟩
    have hall : ∀ n ∈ ns, isScalar n = true := by
      intro n hn
      by_contra hbroken
      unfold lower flatMap ofPoints at h
      dsimp only at h
      split at h
      · next hscalar =>
        refine hbroken (List.all_eq_true.1 hscalar n (List.mem_flatMap.2 ⟨n, hn, ?_⟩))
        rw [if_neg hbroken]
        exact List.mem_singleton_self n
      · cases h
    rw [List.map_map]
    exact ((List.map_congr_left fun n hn => toNat_ofNat (hall n hn)).trans (List.map_id' ns)).symm

/-- What is written in lower case without blanks around it is a word exactly if the text is but for
blanks around it and for the case of ASCII letters. -/
lemma stripped_lower_iff {t : Text} {word : String}
    (hword : ∀ d ∈ word.toList, d.toNat < 0x80 ∧ d ≠ 'k' ∧ isGap d = false) :
    (∃ s, t.lower.string? = some s ∧ strip isGap s.toList = word.toList) ↔ t.Spells word := by
  have hds : ∀ d ∈ word.toList, d.toNat < 0x80 ∧ d ≠ 'k' := fun d hd =>
    ⟨(hword d hd).1, (hword d hd).2.1⟩
  have hstrip : ∀ cs : List Char, strip isGap (String.ofList (cs.flatMap lowerChar)).toList =
      word.toList ↔ (strip isGap cs).map Char.toLower = word.toList := fun cs => by
    rw [String.toList_ofList, strip_flatMap lowerChar_ne_nil isGap_of_mem_lowerChar,
      flatMap_lowerChar_eq_iff hds]
  constructor
  · rintro ⟨s, hs, hw⟩
    obtain ⟨cs, hcs⟩ := exists_of_string?_lower hs
    rw [lower_eq hcs] at hs
    obtain rfl : String.ofList (cs.flatMap lowerChar) = s := Option.some.inj hs
    obtain ⟨before, after, hsplit, hgap⟩ := exists_append_strip isGap cs
    exact ⟨before, _, after, by rw [← hsplit, hcs], hgap, (hstrip cs).1 hw⟩
  · rintro ⟨before, cs, after, hpoints, hgap, hcs⟩
    refine ⟨_, by rw [lower_eq hpoints]; rfl, (hstrip _).2 ?_⟩
    rw [strip_append hgap fun c hc => ?_, hcs]
    rw [← isGap_toLower, (hword _ (hcs ▸ List.mem_map_of_mem hc)).2.2]

end Text

/-! ### Flags -/

/-- The words for yes and those for no. -/
def flagWords : Bool → List String
  | true => ["true", "1", "yes"]
  | false => ["false", "0", "no"]

/-- The text is one of the words for yes, or for no, but for blanks around it and for the case of
ASCII letters. -/
def Text.Means (t : Text) (yes : Bool) : Prop := ∃ word ∈ flagWords yes, t.Spells word

lemma flagOfWord?_eq_some_iff {word : String} {yes : Bool} :
    flagOfWord? word = some yes ↔ word ∈ flagWords yes := by
  unfold flagOfWord?
  constructor
  · intro h
    split at h
    · next hy =>
      cases h
      simpa [flagWords, or_assoc] using hy
    · split at h
      · next hn =>
        cases h
        simpa [flagWords, or_assoc] using hn
      · cases h
  · intro h
    cases yes <;> simp only [flagWords, List.mem_cons, List.not_mem_nil, or_false] at h <;>
      rcases h with rfl | rfl | rfl <;> decide

/-- **A text is a flag exactly if it is one of the words for yes or for no**, with blanks around it
and in any case of the ASCII letters. Letters beyond ASCII make no difference, though the lower
case of some of them is in ASCII. -/
theorem flag?_eq_some_iff {t : Text} {yes : Bool} : flag? t = some yes ↔ t.Means yes := by
  have hwords : ∀ word ∈ flagWords yes, ∀ d ∈ word.toList,
      d.toNat < 0x80 ∧ d ≠ 'k' ∧ Text.isGap d = false := by
    cases yes <;> simp [flagWords, Text.isGap, Text.isBlank]
  unfold flag?
  rw [Option.bind_eq_some_iff]
  constructor
  · rintro ⟨s, hs, hflag⟩
    have hword := flagOfWord?_eq_some_iff.1 hflag
    exact ⟨_, hword, (Text.stripped_lower_iff (hwords _ hword)).1
      ⟨s, hs, String.toList_ofList.symm⟩⟩
  · rintro ⟨word, hword, hspells⟩
    obtain ⟨s, hs, hstrip⟩ := (Text.stripped_lower_iff (hwords _ hword)).2 hspells
    refine ⟨s, hs, ?_⟩
    rw [flagWord?, hstrip, String.ofList_toList]
    exact flagOfWord?_eq_some_iff.2 hword

/-! ### The switch for repeating items -/

lemma Setting.valueIn_of_means {environment : Environment} {t : Text} {yes : Bool}
    (ht : environment.get? repeatItems.name = some t) (h : t.Means yes) :
    repeatItems.valueIn environment = .flag yes := by
  rw [valueIn, ht]
  change (flag? t).elim _ _ = _
  rw [flag?_eq_some_iff.2 h]
  rfl

/-- Without a text, or with one that is no flag, the switch is not set. -/
lemma Setting.valueIn_of_not_means {environment : Environment}
    (h : ∀ t, environment.get? repeatItems.name = some t → ∀ yes, ¬ t.Means yes) :
    repeatItems.valueIn environment = .unset := by
  rw [valueIn]
  cases ht : environment.get? repeatItems.name with
  | none => rfl
  | some t =>
    have hnone : flag? t = none :=
      Option.eq_none_iff_forall_ne_some.2 fun yes hyes => h t ht yes (flag?_eq_some_iff.1 hyes)
    change (flag? t).elim _ _ = _
    rw [hnone]
    rfl

/-- No text means yes and no. -/
lemma Text.Means.unique {t : Text} {yes no : Bool} (h : t.Means yes) (h' : t.Means no) :
    yes = no :=
  Option.some.inj ((flag?_eq_some_iff.2 h).symm.trans (flag?_eq_some_iff.2 h'))

end LayoutTree
