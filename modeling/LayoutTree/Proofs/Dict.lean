import LayoutTree.Proofs.Same
import Mathlib.Data.List.Nodup
import Mathlib.Data.List.Perm.Subperm

/-!
Dicts. What tells them apart is which values stand under which keys; their identities and the order
of their entries do not matter.
-/

namespace LayoutTree

/-! ### Keys -/

namespace Fields

def keys (es : Fields) : List Text := es.map (·.1)

lemma get?_nil (k : Text) : get? [] k = none := rfl

lemma get?_cons (k l : Text) (v : Value) (es : Fields) :
    get? ((l, v) :: es) k = if k = l then some v else es.get? k := by
  by_cases h : k = l
  · simp [get?, h]
  · have hb : (k == l) = false := by simpa using h
    simp [get?, List.lookup_cons, hb, h]

lemma get?_eq_none_iff {k : Text} {es : Fields} : es.get? k = none ↔ k ∉ es.keys := by
  rw [get?, List.lookup_eq_none_iff]
  simp only [keys, List.mem_map, not_exists, not_and, bne_iff_ne]
  exact ⟨fun h e he hk => h e he hk.symm, fun h e he hk => h e he hk.symm⟩

lemma mem_keys_iff {k : Text} {es : Fields} : k ∈ es.keys ↔ ∃ v, es.get? k = some v := by
  rw [← Option.isSome_iff_exists, Option.isSome_iff_ne_none, ne_eq, get?_eq_none_iff, not_not]

lemma mem_of_get? {k : Text} {v : Value} {es : Fields} (h : es.get? k = some v) :
    (k, v) ∈ es := by
  obtain ⟨_, _, rfl, -⟩ := List.lookup_eq_some_iff.1 h
  simp

lemma get?_of_mem {k : Text} {v : Value} {es : Fields} (hn : es.keys.Nodup) (h : (k, v) ∈ es) :
    es.get? k = some v := by
  induction es with
  | nil => cases h
  | cons e es ih =>
    obtain ⟨l, w⟩ := e
    obtain ⟨hl, hes⟩ := List.nodup_cons.1 hn
    rcases List.mem_cons.1 h with he | h
    · cases he
      rw [get?_cons, if_pos rfl]
    · have hk : k ≠ l := fun hk => hl (hk ▸ List.mem_map.2 ⟨(k, v), h, rfl⟩)
      rw [get?_cons, if_neg hk]
      exact ih hes h

lemma keys_put (k : Text) (v : Value) (es : Fields) :
    (es.put k v).keys = if k ∈ es.keys then es.keys else es.keys ++ [k] := by
  induction es with
  | nil => simp [put, keys]
  | cons e es ih =>
    obtain ⟨l, w⟩ := e
    have hcons : ∀ fs, keys ((l, w) :: fs) = l :: keys fs := fun _ => rfl
    by_cases h : l = k
    · subst h
      simp [put, keys]
    · have hb : (l == k) = false := by simpa using h
      rw [put, if_neg (by simp [hb]), hcons, hcons, ih]
      by_cases hk : k ∈ keys es <;> simp [hk, Ne.symm h]

lemma nodup_put {k : Text} {v : Value} {es : Fields} (h : es.keys.Nodup) :
    (es.put k v).keys.Nodup := by
  rw [keys_put]
  split
  · exact h
  · rename_i hk
    rw [← List.concat_eq_append, List.nodup_concat]
    exact ⟨hk, h⟩

end Fields

/-! ### Equality -/

namespace Value

lemma compareEntries_nil (all fs : Fields) : (compareEntries all [] fs).1 = true := by
  simp only [compareEntries]

lemma compareEntries_cons_cons (all es fs : Fields) (k l : Text) (v w : Value) :
    (compareEntries all ((k, v) :: es) ((l, w) :: fs)).1 =
      ((if k = l then some w else all.get? k).any v.same && (compareEntries all es fs).1) := by
  simp only [compareEntries, beq_iff_eq]
  rcases (if k = l then some w else all.get? k) with _ | x <;> rfl

lemma compareEntries_iff {all es fs : Fields} (hl : es.length = fs.length)
    (hfs : ∀ k w, (k, w) ∈ fs → all.get? k = some w) :
    (compareEntries all es fs).1 = true ↔
      ∀ k v, (k, v) ∈ es → ∃ w, all.get? k = some w ∧ v.same w = true := by
  induction es generalizing fs with
  | nil => simp [compareEntries]
  | cons e es ih =>
    obtain ⟨k, v⟩ := e
    cases fs with
    | nil => cases hl
    | cons f fs =>
      obtain ⟨l, w⟩ := f
      have hrest := ih (by simpa using hl) fun k w h => hfs k w (List.mem_cons_of_mem _ h)
      have hhead : (if k = l then some w else all.get? k) = all.get? k := by
        split
        · rename_i hk
          rw [hk, hfs l w List.mem_cons_self]
        · rfl
      rw [compareEntries_cons_cons, hhead, Bool.and_eq_true, hrest, Option.any_eq_true]
      simp only [List.mem_cons, Prod.mk.injEq]
      constructor
      · rintro ⟨hv, hes⟩ k' v' (⟨rfl, rfl⟩ | h)
        · exact hv
        · exact hes k' v' h
      · intro h
        exact ⟨h k v (.inl ⟨rfl, rfl⟩), fun k' v' h' => h k' v' (.inr h')⟩

lemma same_dict (i j : Nat) (es fs : Fields) :
    (dict i es).same (dict j fs) = (es.length == fs.length && (compareEntries fs es fs).1) := rfl

/-- Dicts are equal if they have equal values under the same keys. -/
lemma same_dict_iff {i j : Nat} {es fs : Fields} (he : es.keys.Nodup) (hf : fs.keys.Nodup) :
    (dict i es).same (dict j fs) = true ↔
      ∀ k, Option.Rel (fun v w => v.same w = true) (es.get? k) (fs.get? k) := by
  rw [same_dict, Bool.and_eq_true, beq_iff_eq]
  have hmem : ∀ k w, (k, w) ∈ fs → fs.get? k = some w := fun _ _ => Fields.get?_of_mem hf
  have hlength : ∀ gs : Fields, gs.keys.length = gs.length := fun _ => List.length_map _
  constructor
  · -- as many entries, so the keys are the same
    rintro ⟨hl, hc⟩ k
    rw [compareEntries_iff hl hmem] at hc
    have hsub : es.keys ⊆ fs.keys := fun k hk => by
      obtain ⟨v, hv⟩ := Fields.mem_keys_iff.1 hk
      obtain ⟨w, hw, -⟩ := hc k v (Fields.mem_of_get? hv)
      exact Fields.mem_keys_iff.2 ⟨w, hw⟩
    have hperm : es.keys.Perm fs.keys :=
      (List.subperm_of_subset he hsub).perm_of_length_le
        (Nat.le_of_eq (by rw [hlength, hlength, hl]))
    rcases hv : es.get? k with _ | v
    · rw [Fields.get?_eq_none_iff, hperm.mem_iff] at hv
      rw [Fields.get?_eq_none_iff.2 hv]
      exact .none
    · obtain ⟨w, hw, hvw⟩ := hc k v (Fields.mem_of_get? hv)
      rw [hw]
      exact .some hvw
  · -- the same keys, so there are as many entries
    intro h
    have hkeys : ∀ k, k ∈ es.keys ↔ k ∈ fs.keys := fun k => by
      have hk := h k
      rw [Fields.mem_keys_iff, Fields.mem_keys_iff]
      generalize es.get? k = x at hk ⊢
      generalize fs.get? k = y at hk ⊢
      cases hk <;> simp
    have hperm : es.keys.Perm fs.keys := (List.perm_ext_iff_of_nodup he hf).2 hkeys
    have hl : es.length = fs.length := by rw [← hlength es, ← hlength fs, hperm.length_eq]
    refine ⟨hl, (compareEntries_iff hl hmem).2 fun k v hv => ?_⟩
    have hk := h k
    rw [Fields.get?_of_mem he hv] at hk
    generalize fs.get? k = y at hk ⊢
    cases hk with
    | some hvw => exact ⟨_, rfl, hvw⟩

/-- All keys there are may be known. -/
lemma same_dict_iff_of_subset {i j : Nat} {es fs : Fields} {ks : List Text} (he : es.keys.Nodup)
    (hf : fs.keys.Nodup) (hes : es.keys ⊆ ks) (hfs : fs.keys ⊆ ks) :
    (dict i es).same (dict j fs) = true ↔
      ∀ k ∈ ks, Option.Rel (fun v w => v.same w = true) (es.get? k) (fs.get? k) := by
  rw [same_dict_iff he hf]
  refine ⟨fun h k _ => h k, fun h k => ?_⟩
  by_cases hk : k ∈ ks
  · exact h k hk
  · rw [Fields.get?_eq_none_iff.2 fun hm => hk (hes hm),
      Fields.get?_eq_none_iff.2 fun hm => hk (hfs hm)]
    exact .none

/-! ### Identities -/

mutual

/-- The value as it is without the identities of the dicts in it. -/
def bare : Value → Value
  | .list xs => .list (bareAll xs)
  | .dict _ es => .dict 0 (bareEntries es)
  | v => v

def bareAll : List Value → List Value
  | [] => []
  | x :: xs => x.bare :: bareAll xs

def bareEntries : Fields → Fields
  | [] => []
  | (k, v) :: es => (k, v.bare) :: bareEntries es

end

lemma keys_bareEntries (es : Fields) : (bareEntries es).keys = es.keys := by
  induction es with
  | nil => rfl
  | cons e es ih =>
    obtain ⟨k, v⟩ := e
    exact congrArg (k :: ·) ih

lemma length_bareEntries (es : Fields) : (bareEntries es).length = es.length := by
  have h := congrArg List.length (keys_bareEntries es)
  rwa [Fields.keys, Fields.keys, List.length_map, List.length_map] at h

lemma get?_bareEntries (es : Fields) (k : Text) :
    (bareEntries es).get? k = (es.get? k).map bare := by
  induction es with
  | nil => rfl
  | cons e es ih =>
    obtain ⟨l, v⟩ := e
    rw [bareEntries, Fields.get?_cons, Fields.get?_cons, ih]
    split <;> rfl

lemma bareEntries_put (k : Text) (v : Value) (es : Fields) :
    bareEntries (es.put k v) = (bareEntries es).put k v.bare := by
  induction es with
  | nil => rfl
  | cons e es ih =>
    obtain ⟨l, w⟩ := e
    rw [bareEntries, Fields.put, Fields.put, ← ih]
    split <;> rfl

/-- What is neither list nor dict has no dicts to look into. -/
lemma bare_of_other {v : Value} (hl : ∀ xs, v ≠ list xs) (hd : ∀ i es, v ≠ dict i es) :
    v.bare = v := by
  cases v <;> first | rfl | exact absurd rfl (hl _) | exact absurd rfl (hd _ _)

lemma same_list_of_ne {v : Value} (h : ∀ xs, v ≠ list xs) (ys : List Value) :
    v.same (list ys) = false := by
  cases v <;> first | rfl | exact absurd rfl (h _)

lemma list_same_of_ne {v : Value} (h : ∀ xs, v ≠ list xs) (ys : List Value) :
    (list ys).same v = false := by
  cases v <;> first | rfl | exact absurd rfl (h _)

lemma same_dict_of_ne {v : Value} (h : ∀ i es, v ≠ dict i es) (j : Nat) (fs : Fields) :
    v.same (dict j fs) = false := by
  cases v <;> first | rfl | exact absurd rfl (h _ _)

lemma dict_same_of_ne {v : Value} (h : ∀ i es, v ≠ dict i es) (j : Nat) (fs : Fields) :
    (dict j fs).same v = false := by
  cases v <;> first | rfl | exact absurd rfl (h _ _)

lemma bare_ne_list {v : Value} (h : ∀ xs, v ≠ list xs) (ys : List Value) : v.bare ≠ list ys := by
  cases v <;> first | exact absurd rfl (h _) | nofun

lemma bare_ne_dict {v : Value} (h : ∀ i es, v ≠ dict i es) (j : Nat) (fs : Fields) :
    v.bare ≠ dict j fs := by
  cases v <;> first | exact absurd rfl (h _ _) | nofun

lemma eq_dict_of_bare {v : Value} {j : Nat} {fs : Fields} (h : v.bare = dict j fs) :
    ∃ id es, v = dict id es := by
  by_contra hd
  simp only [not_exists] at hd
  exact bare_ne_dict hd j fs h

mutual

/-- Equality does not ask for identities of dicts. -/
lemma same_bare (v w : Value) : v.bare.same w.bare = v.same w := by
  by_cases hl : ∃ xs, v = list xs
  · -- a list
    obtain ⟨xs, rfl⟩ := hl
    by_cases hw : ∃ ys, w = list ys
    · obtain ⟨ys, rfl⟩ := hw
      rw [bare, bare, same_list, same_list, sameAll_bare]
    · rw [not_exists] at hw
      rw [bare, list_same_of_ne (bare_ne_list hw), list_same_of_ne hw]
  by_cases hd : ∃ i es, v = dict i es
  · -- a dict
    obtain ⟨i, es, rfl⟩ := hd
    by_cases hw : ∃ j fs, w = dict j fs
    · obtain ⟨j, fs, rfl⟩ := hw
      rw [bare, bare, same_dict, same_dict, compareEntries_bare, length_bareEntries,
        length_bareEntries]
    · simp only [not_exists] at hw
      rw [bare, dict_same_of_ne (bare_ne_dict hw), dict_same_of_ne hw]
  · -- a value that stays as it is
    simp only [not_exists] at hl hd
    rw [bare_of_other hl hd]
    cases w with
    | list ys => rw [bare, same_list_of_ne hl, same_list_of_ne hl]
    | dict j fs => rw [bare, same_dict_of_ne hd, same_dict_of_ne hd]
    | _ => rfl

lemma sameAll_bare (xs ys : List Value) : sameAll (bareAll xs) (bareAll ys) = sameAll xs ys := by
  cases xs with
  | nil => cases ys <;> rfl
  | cons x xs =>
    cases ys with
    | nil => rfl
    | cons y ys =>
      rw [bareAll, bareAll, sameAll_cons_cons, sameAll_cons_cons, same_bare, sameAll_bare]

lemma compareEntries_bare (all es fs : Fields) :
    (compareEntries (bareEntries all) (bareEntries es) (bareEntries fs)).1 =
      (compareEntries all es fs).1 := by
  cases es with
  | nil => rfl
  | cons e es =>
    obtain ⟨k, v⟩ := e
    cases fs with
    | nil => rfl
    | cons f fs =>
      obtain ⟨l, w⟩ := f
      have hhead : (if k = l then some w.bare else (bareEntries all).get? k) =
          (if k = l then some w else all.get? k).map bare := by
        rw [get?_bareEntries]
        split <;> rfl
      rw [bareEntries, bareEntries, compareEntries_cons_cons, compareEntries_cons_cons, hhead,
        compareEntries_bare, Option.any_map]
      rcases (if k = l then some w else all.get? k) with _ | x
      · rfl
      · rw [Option.any_some, Option.any_some]
        exact congrArg (· && _) (same_bare v x)

end

end Value

end LayoutTree
