import LayoutTree.Proofs.Compose.Splitting
import LayoutTree.Proofs.Double
import Mathlib.Data.Set.List

/-!
Children of one configuration. The test for them goes over the children once and keeps the
configurations that it meets. It comes out as if every two children were compared, part by part and
number by number, so neither the order of the children matters nor how often a child stands there
nor how many copies a slot asks for.
-/

namespace LayoutTree

/-! ### Equality part by part -/

/-- Dimensions of one mode whose values are one number. -/
@[mk_iff] structure Dimension.Equal (a b : Dimension) : Prop where
  mode : a.mode = b.mode
  value : a.value.Equal b.value

@[mk_iff] structure LayoutSize.Equal (a b : LayoutSize) : Prop where
  width : a.width.Equal b.width
  height : a.height.Equal b.height

@[mk_iff] structure Spacing.Equal (a b : Spacing) : Prop where
  mode : a.mode = b.mode
  value : a.value.Equal b.value

@[mk_iff] structure Insets.Equal (a b : Insets) : Prop where
  top : a.top.Equal b.top
  leading : a.leading.Equal b.leading
  bottom : a.bottom.Equal b.bottom
  trailing : a.trailing.Equal b.trailing

/-- Edges that are unset on both sides or have equal spacings. -/
@[mk_iff] structure EdgeSpacing.Equal (a b : EdgeSpacing) : Prop where
  leading : Option.Rel Spacing.Equal a.leading b.leading
  top : Option.Rel Spacing.Equal a.top b.top
  trailing : Option.Rel Spacing.Equal a.trailing b.trailing
  bottom : Option.Rel Spacing.Equal a.bottom b.bottom

/-- Slots of one configuration, however many copies each of them asks for. -/
@[mk_iff] structure Slot.Matches (s t : Slot) : Prop where
  size : s.size.Equal t.size
  insets : Option.Rel Insets.Equal s.insets t.insets
  edges : Option.Rel EdgeSpacing.Equal s.edges t.edges

lemma Dimension.same_iff {a b : Dimension} : a.same b = true ↔ a.Equal b := by
  simp only [same, Bool.and_eq_true, decide_eq_true_eq, Double.same_iff, equal_iff]

lemma LayoutSize.same_iff {a b : LayoutSize} : a.same b = true ↔ a.Equal b := by
  simp only [same, Bool.and_eq_true, Dimension.same_iff, equal_iff]

lemma Spacing.same_iff {a b : Spacing} : a.same b = true ↔ a.Equal b := by
  simp only [same, Bool.and_eq_true, decide_eq_true_eq, Double.same_iff, equal_iff]

lemma Insets.same_iff {a b : Insets} : a.same b = true ↔ a.Equal b := by
  simp only [same, Bool.and_eq_true, Double.same_iff, equal_iff, and_assoc]

/-- What may be null equals null only, or what is there. -/
lemma Value.same_ofOption_iff {α : Type} {f : α → Value} {r : α → α → Prop}
    (hf : ∀ a b, (f a).same (f b) = true ↔ r a b)
    (hn : ∀ a, (f a).same .null = false ∧ Value.null.same (f a) = false) {x y : Option α} :
    (ofOption f x).same (ofOption f y) = true ↔ Option.Rel r x y := by
  cases x <;> cases y <;> simp [ofOption, hf, hn]

namespace EdgeSpacing

lemma same_spacing_iff {g h : Option Spacing} :
    (Value.ofOption .spacing g).same (.ofOption .spacing h) = true ↔
      Option.Rel Spacing.Equal g h :=
  Value.same_ofOption_iff (by simp [Spacing.same_iff]) fun _ => ⟨rfl, rfl⟩

lemma same_iff {a b : EdgeSpacing} : a.toValue.same b.toValue = true ↔ a.Equal b := by
  simp only [toValue, Value.same_edges, Bool.and_eq_true, same_spacing_iff, equal_iff]

end EdgeSpacing

namespace Slot

variable {s t u : Slot}

lemma alike_iff : s.alike t = true ↔ s.Matches t := by
  have hi : (Value.ofOption .insets s.insets).same (.ofOption .insets t.insets) = true ↔
      Option.Rel Insets.Equal s.insets t.insets :=
    Value.same_ofOption_iff (by simp [Insets.same_iff]) fun _ => ⟨rfl, rfl⟩
  have he : (Value.ofOption EdgeSpacing.toValue s.edges).same
      (.ofOption EdgeSpacing.toValue t.edges) = true ↔
      Option.Rel EdgeSpacing.Equal s.edges t.edges :=
    Value.same_ofOption_iff (fun _ _ => EdgeSpacing.same_iff) fun _ => ⟨rfl, rfl⟩
  simp only [alike, signature, Value.sameAll_cons_cons, Value.sameAll_nil, Value.same_size,
    LayoutSize.same_iff, hi, he, Bool.and_eq_true, List.isEmpty_nil, and_true, matches_iff]

lemma Matches.refl (s : Slot) : s.Matches s := alike_iff.1 (Tree.Slot.alike_self s)

lemma Matches.symm (h : s.Matches t) : t.Matches s := alike_iff.1 (alike_symm (alike_iff.2 h))

lemma Matches.trans (h : s.Matches t) (h' : t.Matches u) : s.Matches u :=
  alike_iff.1 (alike_trans (alike_iff.2 h) (alike_iff.2 h'))

end Slot

/-! ### Every two children -/

namespace Tree

variable {ts us : List Tree}

/-- It is enough to compare all slots with the first one. -/
lemma uniform_iff : uniform ts = true ↔ ts ≠ [] ∧ (∀ t ∈ ts, ∃ s, slot s = t) ∧
    ∀ s s', slot s ∈ ts → slot s' ∈ ts → s.Matches s' := by
  constructor
  · intro h
    unfold uniform at h
    split at h
    · rename_i s ss hs
      obtain rfl := mapM_slot?_eq_some_iff.1 hs
      -- equal to the first slot, and so to one another
      have hfirst : ∀ z ∈ s :: ss, z.alike s = true := by
        intro z hz
        rcases List.mem_cons.1 hz with rfl | hz
        · exact Slot.alike_self z
        · exact List.all_eq_true.1 h z hz
      have hmem : ∀ {z}, slot z ∈ (s :: ss).map slot → z ∈ s :: ss := by simp
      refine ⟨by simp, by simp, fun z z' hz hz' => Slot.alike_iff.1 ?_⟩
      exact Slot.alike_of_alike (hfirst z (hmem hz)) (hfirst z' (hmem hz'))
    · cases h
  · rintro ⟨hne, hslots, hpairs⟩
    obtain ⟨ss, rfl⟩ : ts ∈ Set.range (List.map slot) := by
      rw [Set.range_list_map]
      exact hslots
    rcases ss with _ | ⟨s, ss⟩
    · exact absurd rfl hne
    unfold uniform
    rw [mapM_slot?_eq_some_iff.2 rfl]
    refine List.all_eq_true.2 fun z hz => Slot.alike_iff.2 (hpairs z s ?_ ?_)
    · simp [hz]
    · simp

/-! ### Children that count for one another -/

/-- Two children are slots of one configuration, or groups. -/
inductive Resembles : Tree → Tree → Prop
  | slot {s t : Slot} : s.Matches t → Resembles (slot s) (slot t)
  | group (f g : Frame) (ts us : List Tree) : Resembles (group f ts) (group g us)

namespace Resembles

lemma refl (t : Tree) : t.Resembles t := by
  cases t with
  | slot s => exact .slot (.refl s)
  | group f ts => exact .group f f ts ts

/-- Equal children count for one another. -/
lemma of_equals {t u : Tree} (h : t.toValue.equals u.toValue = true) : t.Resembles u := by
  cases t with
  | slot s =>
    cases u with
    | slot z =>
      refine .slot (Slot.alike_iff.1 ?_)
      have h : s.toValue.same z.toValue = true := h
      simp only [Slot.toValue, Value.same_slot, Bool.and_eq_true] at h
      simp [Slot.alike, Slot.signature, h]
    | group g us => cases h
  | group f ts =>
    cases u with
    | slot z => cases h
    | group g us => exact .group f g ts us

end Resembles

/-- For every child of the second row one of the first row counts. -/
def Covers (ts us : List Tree) : Prop := ∀ u ∈ us, ∃ t ∈ ts, t.Resembles u

lemma Covers.of_subset (h : us ⊆ ts) : Covers ts us := fun u hu => ⟨u, h hu, .refl u⟩

lemma Covers.cons {t u : Tree} (ht : t ∈ ts) (hu : t.Resembles u) (h : Covers ts us) :
    Covers ts (u :: us) :=
  List.forall_mem_cons.2 ⟨⟨t, ht, hu⟩, h⟩

/-- Of rows that cover each other both or neither are of one configuration. -/
lemma uniform_of_covers (h : Covers ts us) (h' : Covers us ts) (hu : uniform ts = true) :
    uniform us = true := by
  obtain ⟨hne, hslots, hpairs⟩ := uniform_iff.1 hu
  have hslot : ∀ {z}, slot z ∈ us → ∃ s, slot s ∈ ts ∧ s.Matches z := by
    intro z hz
    obtain ⟨t, ht, hres⟩ := h _ hz
    cases hres with
    | slot hm => exact ⟨_, ht, hm⟩
  refine uniform_iff.2 ⟨?_, fun u hmem => ?_, fun z z' hz hz' => ?_⟩
  · rintro rfl
    obtain ⟨t, ht⟩ := List.exists_mem_of_ne_nil _ hne
    obtain ⟨u, hmem, -⟩ := h' t ht
    cases hmem
  · obtain ⟨t, ht, hres⟩ := h u hmem
    obtain ⟨s, rfl⟩ := hslots t ht
    cases hres with
    | slot hm => exact ⟨_, rfl⟩
  · obtain ⟨s, hs, hsz⟩ := hslot hz
    obtain ⟨s', hs', hsz'⟩ := hslot hz'
    exact (hsz.symm.trans (hpairs s s' hs hs')).trans hsz'

lemma uniform_congr (h : Covers ts us) (h' : Covers us ts) : uniform ts = uniform us :=
  Bool.eq_iff_iff.2 ⟨uniform_of_covers h h', uniform_of_covers h' h⟩

/-- One change to a row of children: they are put into another order, the first one is doubled by an
equal one, the first two, slots of one configuration, become one slot with the copies of both, or
the first one, a slot, asks for another number of copies. -/
inductive Reshapes : List Tree → List Tree → Prop
  | reorder {ts us : List Tree} : ts.Perm us → Reshapes ts us
  | double {t u : Tree} (ts : List Tree) :
      t.toValue.equals u.toValue = true → Reshapes (t :: ts) (t :: u :: ts)
  | merge {s t z : Slot} (ts : List Tree) : s.Matches t → z.Matches s →
      z.count = s.count + t.count → Reshapes (slot s :: slot t :: ts) (slot z :: ts)
  | recount {s z : Slot} (ts : List Tree) : z.Matches s → Reshapes (slot s :: ts) (slot z :: ts)

namespace Reshapes

lemma covers (h : Reshapes ts us) : Covers ts us ∧ Covers us ts := by
  cases h with
  | reorder h => exact ⟨.of_subset h.symm.subset, .of_subset h.subset⟩
  | @double t u ts h =>
    have hu : t.Resembles u := .of_equals h
    exact ⟨.cons (by simp) (.refl t) (.cons (by simp) hu (.of_subset (by simp))),
      .of_subset (by simp)⟩
  | @merge s t z ts h hz _ =>
    exact ⟨.cons (by simp) (.slot hz.symm) (.of_subset (by simp)),
      .cons (by simp) (.slot hz) (.cons (by simp) (.slot (hz.trans h)) (.of_subset (by simp)))⟩
  | @recount s z ts h =>
    exact ⟨.cons (by simp) (.slot h.symm) (.of_subset (by simp)),
      .cons (by simp) (.slot h) (.of_subset (by simp))⟩

lemma uniform_eq (h : Reshapes ts us) : uniform ts = uniform us :=
  uniform_congr h.covers.1 h.covers.2

end Reshapes

/-- Any number of these changes, made or taken back. -/
lemma uniform_of_eqvGen (h : Relation.EqvGen Reshapes ts us) : uniform ts = uniform us := by
  induction h with
  | rel ts us h => exact h.uniform_eq
  | refl ts => rfl
  | symm ts us _ ih => exact ih.symm
  | trans ts us vs _ _ ih ih' => exact ih.trans ih'

/-- **Equal slots**: the test for children of one configuration always answers. It says yes exactly
if there are children, all of them are slots, and every two of them have equal sizes, insets and
edge spacings; and it gives the same answer after any number of changes to the order of the
children, to how often equal ones stand there and to how many copies the slots ask for. -/
theorem homogeneous_pairwise (ts : List Tree) :
    ∃ answer, Composer.homogeneous (toValues ts) = .ok answer ∧
      (answer = true ↔ ts ≠ [] ∧ (∀ t ∈ ts, ∃ s, slot s = t) ∧
        ∀ s s', slot s ∈ ts → slot s' ∈ ts → s.Matches s') ∧
      ∀ us, Relation.EqvGen Reshapes ts us →
        Composer.homogeneous (toValues us) = .ok answer := by
  refine ⟨uniform ts, Composer.homogeneous_toValues ts, uniform_iff, fun us h => ?_⟩
  rw [Composer.homogeneous_toValues, uniform_of_eqvGen h]

/-- Two slots whose widths are zeros of either sign and whose heights are one not-a-number become
one slot, which is then doubled. -/
theorem homogeneous_pairwise_merged :
    let size (width : Double) : LayoutSize := ⟨1, ⟨2, .absolute, width⟩, ⟨3, .absolute, .nan 4⟩⟩
    let one (width : Double) (n : Nat) (h : 0 < n) : Slot :=
      ⟨5, size width, some (.none 6), none, n, h⟩
    let negative : Double := .finite true ⟨0, by decide⟩ ⟨0, by decide⟩
    let ts : List Tree := [slot (one .zero 2 (by decide)), slot (one negative 1 (by decide))]
    let us : List Tree := [slot (one .zero 3 (by decide)), slot (one .zero 3 (by decide))]
    Relation.EqvGen Reshapes ts us ∧ Composer.homogeneous (toValues ts) = .ok true ∧
      Composer.homogeneous (toValues us) = .ok true := by
  intro size one negative ts us
  have hmatch : (one .zero 2 (by decide)).Matches (one negative 1 (by decide)) :=
    Slot.alike_iff.1 (by decide)
  have hz : (one .zero 3 (by decide)).Matches (one .zero 2 (by decide)) :=
    Slot.alike_iff.1 (by decide)
  have hreshapes : Relation.EqvGen Reshapes ts us :=
    .trans _ _ _ (.rel _ _ (.merge [] hmatch hz rfl)) (.rel _ _ (.double [] (by decide)))
  obtain ⟨answer, hts, hiff, hus⟩ := homogeneous_pairwise ts
  have hanswer : answer = true := by
    refine hiff.2 ⟨by simp [ts], by simp [ts], ?_⟩
    simp only [ts, List.mem_cons, List.not_mem_nil, or_false, slot.injEq]
    rintro s s' (rfl | rfl) (rfl | rfl)
    · exact .refl _
    · exact hmatch
    · exact hmatch.symm
    · exact .refl _
  rw [hanswer] at hts hus
  exact ⟨hreshapes, hts, hus us hreshapes⟩

/-- Not-a-numbers that were made apart are no equal sizes. -/
example : let size (tag : Nat) : LayoutSize := ⟨1, ⟨2, .absolute, .nan tag⟩, ⟨3, .absolute, .zero⟩⟩
    Composer.homogeneous (toValues [slot ⟨4, size 5, none, none, 1, by decide⟩,
      slot ⟨4, size 6, none, none, 1, by decide⟩]) = .ok false := rfl

end Tree

end LayoutTree
