import LayoutTree.Proofs.Compose.Subitems
import LayoutTree.Proofs.Descriptor.Equality
import LayoutTree.Proofs.Section.Rendering

/-!
The descriptor of a tree describes what the model engine makes of the tree: with all defaults
written out they are equal, whether or not items are repeated.
-/

namespace LayoutTree

open Descriptor

/-! ### What the model engine makes of boxes -/

namespace Plan.Modelled

variable {base id : Nat} {p : Plan} {z : LayoutSize} {d : Direction} {vs : List Value}
  {v n x y w : Value}

lemma elim_insets_item {i : Option Insets}
    (h : (i.elim p p.insets).Modelled base (.item id z x w)) :
    ∃ k y, p.Modelled base (.item k z y w) ∧ x = i.elim y .insets := by
  cases i with
  | none => exact ⟨id, x, h, rfl⟩
  | some i =>
    cases h with
    | insetsItem _ h => exact ⟨_, _, h, rfl⟩

lemma elim_edges_item {e : Option EdgeSpacing}
    (h : (e.elim p p.edges).Modelled base (.item id z w x)) :
    ∃ k y, p.Modelled base (.item k z w y) ∧ x = e.elim y EdgeSpacing.toValue := by
  cases e with
  | none => exact ⟨id, x, h, rfl⟩
  | some e =>
    cases h with
    | edgesItem _ h => exact ⟨_, _, h, rfl⟩

lemma elim_insets_group {i : Option Insets}
    (h : (i.elim p p.insets).Modelled base (.itemGroup id z d vs n x v w)) :
    ∃ k y, p.Modelled base (.itemGroup k z d vs n y v w) ∧ x = i.elim y .insets := by
  cases i with
  | none => exact ⟨id, x, h, rfl⟩
  | some i =>
    cases h with
    | insetsGroup _ h => exact ⟨_, _, h, rfl⟩

lemma elim_edges_group {e : Option EdgeSpacing}
    (h : (e.elim p p.edges).Modelled base (.itemGroup id z d vs n v x w)) :
    ∃ k y, p.Modelled base (.itemGroup k z d vs n v y w) ∧ x = e.elim y EdgeSpacing.toValue := by
  cases e with
  | none => exact ⟨id, x, h, rfl⟩
  | some e =>
    cases h with
    | edgesGroup _ h => exact ⟨_, _, h, rfl⟩

lemma elim_spacing_group {g : Option Spacing}
    (h : (g.elim p p.spacing).Modelled base (.itemGroup id z d vs n v w x)) :
    ∃ k y, p.Modelled base (.itemGroup k z d vs n v w y) ∧ x = g.elim y .spacing := by
  cases g with
  | none => exact ⟨id, x, h, rfl⟩
  | some g =>
    cases h with
    | spacing _ h => exact ⟨_, _, h, rfl⟩

/-- The item of a slot has its fields, and insets in any case. -/
lemma eq_item {s : Slot} (h : s.leaf.Modelled base v) : ∃ id j, v = .item id s.size
    (.insets (s.insets.getD (.none j))) (.ofOption EdgeSpacing.toValue s.edges) := by
  let inset := s.insets.elim (Plan.item s.size) (Plan.item s.size).insets
  rcases Value.eq_of_isHost h.isHost with ⟨id, z, i, e, rfl⟩ | ⟨id, z, d, vs, n, i, e, g, rfl⟩
  · obtain ⟨_, _, hi, rfl⟩ := elim_edges_item (p := inset) (e := s.edges) h
    obtain ⟨_, _, hz, rfl⟩ := elim_insets_item (i := s.insets) hi
    cases hz with
    | @item _ j _ _ =>
      refine ⟨id, j, ?_⟩
      rcases s.insets <;> rcases s.edges <;> rfl
  · obtain ⟨_, _, hi, -⟩ := elim_edges_group (p := inset) (e := s.edges) h
    obtain ⟨_, _, hz, -⟩ := elim_insets_group (i := s.insets) hi
    cases hz

/-- The group of a frame has its fields, and insets in any case. What it holds is what was made
before it was configured. -/
lemma eq_group {f : Frame} {repetition : Option (Plan × Nat)} {ps : List Plan}
    (h : (f.plan (f.core repetition ps)).Modelled base v) : ∃ id j k vs n,
      v = .itemGroup id f.size f.direction vs n (.insets (f.insets.getD (.none j)))
        (.ofOption EdgeSpacing.toValue f.edges) (.ofOption .spacing f.spacing) ∧
      (f.core repetition ps).Modelled base
        (.itemGroup k f.size f.direction vs n (.insets (.none j)) .null .null) := by
  have hgroup : (f.plan (f.core repetition ps)).isGroup = true := by
    rw [f.isGroup_plan, f.isGroup_core]
  let inset := f.insets.elim (f.core repetition ps) (f.core repetition ps).insets
  let spaced := f.edges.elim inset inset.edges
  obtain ⟨id, z, d, vs, n, i, e, g, rfl⟩ := h.eq_itemGroup hgroup
  obtain ⟨_, _, he, rfl⟩ := elim_spacing_group (p := spaced) (g := f.spacing) h
  obtain ⟨_, _, hi, rfl⟩ := elim_edges_group (p := inset) (e := f.edges) he
  obtain ⟨k, _, hcore, rfl⟩ := elim_insets_group (p := f.core repetition ps) (i := f.insets) hi
  rcases repetition with _ | ⟨leaf, m⟩ <;>
  · have hmade := hcore
    cases hcore
    refine ⟨id, _, k, _, _, ?_, hmade⟩
    rcases f.insets <;> rcases f.edges <;> rcases f.spacing <;> rfl

end Plan.Modelled

/-! ### Trees -/

lemma Insets.same_getD {i i' : Option Insets}
    (h : (Value.ofOption .insets i).same (.ofOption .insets i') = true) (j k : Nat) :
    (i.getD (.none j)).same (i'.getD (.none k)) = true := by
  cases i <;> cases i' <;> first | rfl | cases h | simpa [Value.ofOption] using h

/-- The descriptor and the host object are equal with all defaults written out. Numbers are
compared as numbers. -/
def Value.Describes (w v : Value) : Prop := w.filled.same v.rendered = true

namespace Descriptor

open Value

variable {base : Nat} {v : Value}

lemma sameAll_iff_describes {ws vs : List Value} :
    sameAll (filledAll ws) (renderedAll vs) = true ↔ List.Forall₂ Describes ws vs := by
  induction ws generalizing vs with
  | nil => cases vs <;> simp [filledAll, renderedAll]
  | cons w ws ih =>
    cases vs with
    | nil => simp [filledAll, renderedAll]
    | cons v vs => simp [filledAll, renderedAll, ih, Describes]

lemma getD_ofInsets (i : Option Insets) :
    (i.map ofInsets).getD zeros = ofInsets (i.getD (.none 0)) := by
  cases i <;> rfl

/-- A box with its insets written out is compared key by key. -/
lemma same_fill_iff {es fs : Fields} (hes : es.keys.Sublist boxKeys)
    (hfs : fs.keys.Sublist boxKeys) :
    (dict 0 (es.fill "contentInsets" zeros)).same (dict 0 fs) = true ↔
      ∀ k ∈ boxKeys, Option.Rel (fun v w => v.same w = true)
        ((es.fill "contentInsets" zeros).get? k) (fs.get? k) :=
  same_dict_iff_of_subset (Fields.nodup_fill (hes.nodup nodup_boxKeys)) (hfs.nodup nodup_boxKeys)
    (Fields.keys_fill_subset hes.subset (by decide)) hfs.subset

/-- Slots of one configuration are described alike. -/
lemma slot_describes {s t : Slot} (h : s.alike t = true) (hv : t.leaf.Modelled base v) :
    (Tree.slot s).descriptor.Describes v := by
  obtain ⟨id, j, rfl⟩ := hv.eq_item
  simp only [Slot.alike, Slot.signature, sameAll_cons_cons, Bool.and_eq_true, same_size] at h
  obtain ⟨hz, hi, he, -⟩ := h
  have hi := Insets.same_getD hi 0 j
  rw [Describes, filled_slot, rendered_item]
  refine (same_fill_iff (Tree.keys_entries _) (Tree.keys_entries _)).2 ?_
  simp [boxKeys, Tree.entries, Fields.get?_cons, Fields.get?_fill, get?_extras, same_ofSize,
    getD_ofInsets, same_ofInsets, rel_ofEdges, hz, hi, he]

/-- A group is described if its subitems are, as they are laid out. -/
lemma group_describes {f : Frame} {ts : List Tree} {id j : Nat} {vs : List Value} {n : Value}
    (h : sameAll (filledAll (Tree.descriptors ts)) (unrolledSubitems n (renderedAll vs)).2 = true) :
    (Tree.group f ts).descriptor.Describes
      (.itemGroup id f.size f.direction vs n (.insets (f.insets.getD (.none j)))
        (.ofOption EdgeSpacing.toValue f.edges) (.ofOption .spacing f.spacing)) := by
  have hi := Insets.same_getD (same_self (.ofOption .insets f.insets)) 0 j
  rw [Describes, filled_group, rendered_itemGroup]
  refine (same_fill_iff (keys_groupEntries f _) (keys_groupEntries _ _)).2 ?_
  simp [boxKeys, groupEntries, Fields.get?_cons, Fields.get?_fill, get?_extras,
    getD_ofInsets, same_ofInsets, rel_ofEdges, rel_ofSpacing, same_list, h, hi]

end Descriptor

namespace Tree

open Value

variable {base : Nat} {v : Value} {vs : List Value} {repeats : Bool}

lemma replicate_describe {w : Value} {p : Plan} (h : ∀ v, p.Modelled base v → w.Describes v)
    {n : Nat} (hv : Plan.AllModelled base (List.replicate n p) vs) :
    List.Forall₂ Describes (List.replicate n w) vs := by
  induction n generalizing vs with
  | zero =>
    cases hv
    exact .nil
  | succ n ih =>
    cases hv with
    | cons hv hvs => exact .cons (h _ hv) (ih hvs)

/-- The items of slots of one configuration are described by copies of the first of them. -/
lemma slots_describe {s : Slot} (hv : s.leaf.Modelled base v) {ts : List Tree} {ss : List Slot}
    (hs : ts.mapM slot? = some ss) (hall : ∀ t ∈ ss, t.alike s = true) :
    List.Forall₂ Describes (descriptors (allUnits ts)) (List.replicate (Slot.total ss) v) := by
  induction ts generalizing ss with
  | nil =>
    cases hs
    exact .nil
  | cons t ts ih =>
    rw [List.mapM_cons] at hs
    cases t with
    | group f us => cases hs
    | slot u =>
      rcases hrest : ts.mapM slot? with _ | rest
      · simp [slot?, hrest] at hs
      obtain rfl : u :: rest = ss := by simpa [slot?, hrest] using hs
      have htotal : Slot.total (u :: rest) = u.count + Slot.total rest := by simp [Slot.total]
      rw [allUnits, units, descriptors_append, descriptors_replicate, htotal, List.replicate_add]
      exact List.rel_append
        (forall₂_replicate (Descriptor.slot_describes (s := u.single) (hall u (by simp)) hv) _)
        (ih hrest fun t ht => hall t (by simp [ht]))

/-- Whatever the model engine makes of the subitems of trees is described by their units. -/
def UnitsDescribe (repeats : Bool) (base : Nat) (ts : List Tree) : Prop :=
  ∀ {held : Nat} {ps : List Plan} {vs : List Value}, allSubitems repeats held ts = .ok ps →
    Plan.AllModelled base ps vs → List.Forall₂ Describes (descriptors (allUnits ts)) vs

/-- What the model engine makes of a group has its fields, and its subitems as laid out are
described by the units of the children. -/
lemma rows_describe (f : Frame) {ts : List Tree} (hts : UnitsDescribe repeats base ts) {p : Plan}
    {v : Value} (hp : plan repeats f ts = .ok p) (hv : p.Modelled base v) :
    ∃ id j us m, v = .itemGroup id f.size f.direction us m (.insets (f.insets.getD (.none j)))
        (.ofOption EdgeSpacing.toValue f.edges) (.ofOption .spacing f.spacing) ∧
      sameAll (filledAll (descriptors (allUnits ts))) (unrolledSubitems m (renderedAll us)).2 =
        true := by
  obtain ⟨-, ps, hx, rfl⟩ := plan_eq_ok hp
  rcases hr : (if repeats then repetition? ts else none) with _ | ⟨leaf, n⟩ <;> rw [hr] at hv <;>
    obtain ⟨id, j, k, us, m, rfl, hcore⟩ := hv.eq_group <;> refine ⟨id, j, us, m, rfl, ?_⟩
  · -- a group that lists its subitems
    cases hcore with
    | group _ hus =>
      have hall := (Descriptor.sameAll_iff_describes).2 (hts hx hus)
      cases us <;> exact hall
  · -- a group that repeats the item of its slots
    cases hcore with
    | repeated _ hw =>
      have hrep : repetition? ts = some (leaf, n) := by
        split at hr
        · exact hr
        · cases hr
      obtain ⟨s, ss, hs, hall, -, rfl, rfl⟩ := repetition?_eq_some_iff.1 hrep
      have hslots := (Descriptor.sameAll_iff_describes).2 (slots_describe hw hs hall)
      rwa [renderedAll_eq_map, List.map_replicate] at hslots

/-- What the model engine makes of a group is described by the descriptor of its unit form. -/
lemma plan_describes (f : Frame) {ts : List Tree} (hts : UnitsDescribe repeats base ts) {p : Plan}
    {v : Value} (hp : plan repeats f ts = .ok p) (hv : p.Modelled base v) :
    (group f (allUnits ts)).descriptor.Describes v := by
  obtain ⟨id, j, us, m, rfl, hsubitems⟩ := rows_describe f hts hp hv
  exact Descriptor.group_describes hsubitems

mutual

/-- What a tree adds to the subitems of a group is described by the descriptors of its units. -/
lemma units_describe (t : Tree) {ps : List Plan} {vs : List Value}
    (hp : t.subitems repeats = .ok ps) (hv : Plan.AllModelled base ps vs) :
    List.Forall₂ Describes (descriptors t.units) vs := by
  cases t with
  | slot s =>
    obtain rfl := Slot.items_eq hp
    rw [units, descriptors_replicate]
    exact replicate_describe
      (fun v hv => Descriptor.slot_describes (s := s.single) (Slot.alike_self s) hv) hv
  | group f ts =>
    rw [subitems] at hp
    rcases hq : groupPlan repeats f ts (allSubitems repeats 0 ts) with e | q <;> rw [hq] at hp <;>
      cases hp
    cases hv with
    | cons hv hvs =>
      cases hvs
      exact .cons (plan_describes f (allUnits_describe ts) hq hv) .nil

lemma allUnits_describe (ts : List Tree) : UnitsDescribe repeats base ts := by
  intro held ps vs hp hv
  cases ts with
  | nil =>
    cases hp
    cases hv
    exact .nil
  | cons t ts =>
    obtain ⟨xs, ys, hx, -, hy, rfl⟩ := appended_eq_ok_iff.1 hp
    obtain ⟨us, ws, rfl, hus, hws⟩ := hv.exists_append
    rw [allUnits, descriptors_append]
    exact List.rel_append (units_describe t hx hus) (allUnits_describe ts hy hws)

end

/-- The subitems of a host group, as they are read, are described one by one by the units of the
children. -/
lemma effective_describes (f : Frame) (ts : List Tree) {p : Plan} {v : Value}
    (hp : plan repeats f ts = .ok p) (hv : p.Modelled base v) :
    ∃ ys, (∀ ev s, (Run.field v "effective_subitems").exec ev s = (.ok (.list ys), s)) ∧
      List.Forall₂ Describes (descriptors (allUnits ts)) ys := by
  obtain ⟨id, xs, n, i, e, g, ys, hgroup, hfilled, heffective, hread⟩ :=
    (hosts_plan f ts hp hv).reads
  obtain ⟨id', j, us, m, hgroup', hsubitems⟩ := rows_describe f (allUnits_describe ts) hp hv
  rw [hgroup] at hgroup'
  cases hgroup'
  rw [rendered_of_effective hfilled.ne_bool heffective] at hsubitems
  exact ⟨ys, hread, Descriptor.sameAll_iff_describes.1 hsubitems⟩

end Tree

end LayoutTree
