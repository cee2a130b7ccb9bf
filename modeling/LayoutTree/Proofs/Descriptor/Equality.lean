import LayoutTree.Proofs.Descriptor.Units

/-!
Equality of descriptors. Dicts are compared key by key, and what stands under a key says as much as
the field that it describes, so trees in unit form are equal exactly if their descriptors are.
-/

namespace LayoutTree

namespace Descriptor

open Value

/-! ### Fields of boxes -/

lemma same_dimensionLabel (m n : DimensionMode) :
    (text m.label).same (text n.label) = decide (m = n) := by
  cases m <;> cases n <;> decide

lemma same_spacingLabel (m n : SpacingMode) :
    (text m.label).same (text n.label) = decide (m = n) := by
  cases m <;> cases n <;> decide

lemma same_directionText (c d : Direction) :
    (text c.text).same (text d.text) = decide (c = d) := by
  cases c <;> cases d <;> decide

lemma same_ofDimension (a b : Dimension) : (ofDimension a).same (ofDimension b) = a.same b := by
  simp [ofDimension, same_dict, compareEntries_cons_cons, compareEntries_nil, same_dimensionLabel,
    Dimension.same]

lemma same_ofSize (a b : LayoutSize) : (ofSize a).same (ofSize b) = a.same b := by
  simp [ofSize, same_dict, compareEntries_cons_cons, compareEntries_nil, same_ofDimension,
    LayoutSize.same]

lemma same_ofInsets (a b : Insets) : (ofInsets a).same (ofInsets b) = a.same b := by
  simp [ofInsets, same_dict, compareEntries_cons_cons, compareEntries_nil, Insets.same,
    Bool.and_assoc]

lemma same_ofSpacing (a b : Spacing) : (ofSpacing a).same (ofSpacing b) = a.same b := by
  simp [ofSpacing, same_dict, compareEntries_cons_cons, compareEntries_nil, same_spacingLabel,
    Spacing.same]

lemma same_ofNullable (g h : Option Spacing) :
    (ofOption ofSpacing g).same (ofOption ofSpacing h) =
      (ofOption Value.spacing g).same (ofOption .spacing h) := by
  cases g with
  | none => cases h <;> rfl
  | some g =>
    cases h with
    | none => rfl
    | some h => rw [ofOption, ofOption, same_ofSpacing, ofOption, ofOption, same_spacing]

lemma same_ofEdges (a b : EdgeSpacing) :
    (ofEdges a).same (ofEdges b) = a.toValue.same b.toValue := by
  simp [ofEdges, EdgeSpacing.toValue, same_dict, compareEntries_cons_cons, compareEntries_nil,
    same_ofNullable]

/-- What is left out is described by no entry, and by null among the fields. -/
lemma rel_map_iff {α : Type} {f g : α → Value} (h : ∀ a b, (f a).same (f b) = (g a).same (g b))
    (hg : ∀ a, (g a).same .null = false ∧ Value.null.same (g a) = false) (o o' : Option α) :
    Option.Rel (fun v w => v.same w = true) (o.map f) (o'.map f) ↔
      (ofOption g o).same (ofOption g o') = true := by
  cases o <;> cases o' <;> simp [ofOption, h, hg]

/-! ### Trees -/

/-- Descriptors are compared key by key. -/
lemma same_descriptor_iff (t u : Tree) : t.descriptor.same u.descriptor = true ↔
    ∀ k ∈ boxKeys, Option.Rel (fun v w => v.same w = true) (t.entries.get? k) (u.entries.get? k) :=
  same_dict_iff_of_subset (t.keys_entries.nodup nodup_boxKeys) (u.keys_entries.nodup nodup_boxKeys)
    t.keys_entries.subset u.keys_entries.subset

lemma rel_ofInsets (i j : Option Insets) :
    Option.Rel (fun v w => v.same w = true) (i.map ofInsets) (j.map ofInsets) ↔
      (ofOption Value.insets i).same (ofOption .insets j) = true :=
  rel_map_iff (by simp [same_ofInsets]) (fun _ => ⟨rfl, rfl⟩) i j

lemma rel_ofEdges (d e : Option EdgeSpacing) :
    Option.Rel (fun v w => v.same w = true) (d.map ofEdges) (e.map ofEdges) ↔
      (ofOption EdgeSpacing.toValue d).same (ofOption EdgeSpacing.toValue e) = true :=
  rel_map_iff same_ofEdges (fun _ => ⟨rfl, rfl⟩) d e

lemma rel_ofSpacing (g h : Option Spacing) :
    Option.Rel (fun v w => v.same w = true) (g.map ofSpacing) (h.map ofSpacing) ↔
      (ofOption Value.spacing g).same (ofOption .spacing h) = true :=
  rel_map_iff (by simp [same_ofSpacing]) (fun _ => ⟨rfl, rfl⟩) g h

mutual

/-- Trees whose slots stand for one item each are equal exactly if their descriptors are. -/
lemma same_descriptor (t u : Tree) (ht : t.Single) (hu : u.Single) :
    t.descriptor.same u.descriptor = true ↔ t.toValue.same u.toValue = true := by
  rw [same_descriptor_iff]
  cases t with
  | slot s =>
    cases u with
    | slot s' =>
      have hs : s.count = 1 := ht
      have hs' : s'.count = 1 := hu
      simp [boxKeys, Tree.entries, Fields.get?_cons, get?_extras, same_ofSize, rel_ofInsets,
        rel_ofEdges, Tree.toValue, Slot.toValue, hs, hs']
    | group f us =>
      have hne : (Tree.slot s).toValue.same (Tree.group f us).toValue = false := rfl
      simp [boxKeys, Tree.entries, groupEntries, Fields.get?_cons, hne, same_text, text?]
  | group f ts =>
    cases u with
    | slot s =>
      have hne : (Tree.group f ts).toValue.same (Tree.slot s).toValue = false := rfl
      simp [boxKeys, Tree.entries, groupEntries, Fields.get?_cons, hne, same_text, text?]
    | group f' us =>
      have hall := sameAll_descriptors ts us ht hu
      -- the fields are the same on both sides, in another order
      simp [boxKeys, Tree.entries, groupEntries, Fields.get?_cons, get?_extras, same_ofSize,
        same_directionText, rel_ofInsets, rel_ofEdges, rel_ofSpacing, same_list, hall,
        Tree.toValue, Frame.toValue, same_tuple, and_assoc, and_left_comm, and_comm]

lemma sameAll_descriptors (ts us : List Tree) (ht : Tree.AllSingle ts) (hu : Tree.AllSingle us) :
    sameAll (Tree.descriptors ts) (Tree.descriptors us) = true ↔
      sameAll (Tree.toValues ts) (Tree.toValues us) = true := by
  cases ts with
  | nil => cases us <;> simp [Tree.descriptors, Tree.toValues]
  | cons t ts =>
    cases us with
    | nil => simp [Tree.descriptors, Tree.toValues]
    | cons u us =>
      have h := same_descriptor t u ht.1 hu.1
      rw [Tree.descriptor, Tree.descriptor] at h
      simp [Tree.descriptors, Tree.toValues, h, sameAll_descriptors ts us ht.2 hu.2]

end

end Descriptor
end LayoutTree
