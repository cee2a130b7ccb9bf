import LayoutTree.Proofs.Construct
import LayoutTree.Proofs.Lawful.Attribute

/-!
Whatever is validated is lawful: a reading takes nodes as they are or makes them with a count of
one or more and with slots and groups as children, and settling draws lawful values from cursors.
-/

namespace LayoutTree

variable {kept : Prop}

namespace Reading.Gives

variable {α : Type} {P : α → Prop} {r : Reading α}

lemma pure {a : α} (h : P a) : (Pure.pure a : Reading α).Gives P := by
  intro b g e m n hb
  cases hb
  exact h

lemma refuse (kind : IssueKind) : (Reading.refuse kind : Reading α).Gives P := by
  intro a g e m n ha
  cases ha

/-- A verdict that is seen in another way is on the same value. -/
lemma judged {f : Verdict α → Verdict α} (h : r.Gives P)
    (hf : ∀ v a g e, f v = .read a g e → ∃ g' e', v = .read a g' e') : (r.judged f).Gives P := by
  intro a g e m n ha
  obtain ⟨g', e', hv⟩ := hf (r n).1 a g e (Prod.ext_iff.1 ha).1
  exact h a g' e' (r n).2 n (Prod.ext hv rfl)

lemma under (step : Step) (h : r.Gives P) : (r.under step).Gives P := by
  refine h.judged fun v a g e hv => ?_
  cases v <;> cases hv
  exact ⟨_, _, rfl⟩

lemma given (name : String) (h : r.Gives P) : (r.given name).Gives P := by
  refine h.judged fun v a g e hv => ?_
  cases v <;> cases hv
  exact ⟨_, _, rfl⟩

lemma atMost (bound : Exactness) (h : r.Gives P) : (r.atMost bound).Gives P := by
  refine h.judged fun v a g e hv => ?_
  cases v <;> cases hv
  exact ⟨_, _, rfl⟩

/-- What passes a check passes it. -/
lemma check (ok : α → Bool) (kind : IssueKind) (r : Reading α) :
    (r.check ok kind).Gives fun a => ok a = true := by
  intro a g e m n ha
  have hv := (Prod.ext_iff.1 ha).1
  unfold Reading.check Reading.judged at hv
  dsimp only at hv
  rcases hr : (r n).1 with ⟨b, g', e'⟩ | is <;> rw [hr] at hv
  · unfold Verdict.check at hv
    dsimp only at hv
    split at hv <;> cases hv
    assumption
  · cases hv

lemma required {fs : Fields} {name : String} {r : Value → Reading α}
    (h : ∀ v, fs.get? name = some v → (r v).Gives P) : (required fs name r).Gives P := by
  unfold Reading.required
  split
  · exact (h _ ‹_›).given name
  · exact (Gives.refuse _).under _

lemma withDefault {fs : Fields} {name : String} {default : Reading α} {r : Value → Reading α}
    (hd : default.Gives P) (h : ∀ v, fs.get? name = some v → (r v).Gives P) :
    (withDefault fs name default r).Gives P := by
  unfold Reading.withDefault
  split
  · exact (h _ ‹_›).given name
  · exact hd

lemma orNull {r : Value → Reading Value} {v : Value} (h : (r v).Gives (Value.Lawful kept)) :
    (orNull r v).Gives (Value.Lawful kept) := by
  unfold Reading.orNull
  split
  · exact .pure (.atom rfl)
  · exact h

lemma choose {rs : List (String × Reading α)} (h : ∀ p ∈ rs, p.2.Gives P) :
    (choose rs).Gives P := by
  induction rs with
  | nil =>
    intro a g e m n ha
    cases ha
  | cons p rs ih =>
    obtain ⟨name, r⟩ := p
    have hr : (r.under (.name name)).Gives P := (h _ List.mem_cons_self).under _
    have hrs := ih fun p hp => h p (List.mem_cons_of_mem _ hp)
    intro a g e m n ha
    have hv := (Prod.ext_iff.1 ha).1
    dsimp only [Reading.choose] at hv
    rcases h₁ : r.under (.name name) n with ⟨⟨b, g', e'⟩ | is, n'⟩ <;> rw [h₁] at hv <;>
      rcases h₂ : Reading.choose rs n' with ⟨⟨c, g'', e''⟩ | js, n''⟩ <;> rw [h₂] at hv
    · dsimp only [Verdict.better] at hv
      split at hv <;> cases hv
      · exact hrs _ _ _ _ _ h₂
      · exact hr _ _ _ _ _ h₁
    · cases hv
      exact hr _ _ _ _ _ h₁
    · cases hv
      exact hrs _ _ _ _ _ h₂
    · cases hv

end Reading.Gives

namespace Value

variable {v : Value} {fs : Fields}

open Reading (Gives)

/-! ### Counts, spacings and insets -/

lemma gives_atom {α : Type} {f : α → Value} (hf : ∀ a, (f a).isAtom = true) (r : Reading α) :
    (f <$> r).Gives (Lawful kept) := (Gives.any r).map fun a _ => .atom (hf a)

lemma gives_whole (v : Value) : v.whole.Gives (Lawful kept) := by
  unfold whole
  split
  · exact .pure (.atom rfl)
  · exact (Gives.pure (.atom rfl)).atMost _
  · exact gives_atom (fun _ => rfl) _
  · exact (Gives.pure (.atom rfl)).atMost _
  · exact gives_atom (fun _ => rfl) _

/-- Whatever is taken for a number of copies is a whole number from one on. -/
lemma gives_count (v : Value) : v.count.Gives fun n => ∃ i : Int, n = .int i ∧ 1 ≤ i := by
  unfold count
  split
  · exact .refuse _
  · intro n g e m k hn
    have hp := Gives.check isPositive .tooSmall _ n g e m k hn
    cases n <;> first
      | exact ⟨_, rfl, by simpa [isPositive] using hp⟩
      | cases hp

lemma gives_word (expected : String) (v : Value) : (v.word expected).Gives (Lawful kept) := by
  unfold word
  split
  · split
    · exact .pure (.atom rfl)
    · exact .refuse _
  · exact .refuse _
  · exact .refuse _

lemma gives_readSpacing (v : Value) : v.readSpacing.Gives (Lawful kept) := by
  unfold readSpacing
  split
  · exact .pure (.atom rfl)
  · exact gives_atom (fun _ => rfl) _
  · exact .refuse _

lemma gives_readInsets (v : Value) : v.readInsets.Gives (Lawful kept) := by
  unfold readInsets
  split
  · exact .pure (.atom rfl)
  · exact gives_atom (fun _ => rfl) _
  · exact .refuse _

lemma gives_nothing : nothing.Gives (Lawful kept) := .pure (.atom rfl)

lemma gives_noInsets : noInsets.Gives (Lawful kept) := gives_atom (fun _ => rfl) _

/-- A field of spacing that may be left out. -/
lemma gives_spacingField (fs : Fields) (name : String) :
    (Reading.withDefault fs name nothing (Reading.orNull readSpacing)).Gives (Lawful kept) :=
  .withDefault gives_nothing fun v _ => .orNull (gives_readSpacing v)

lemma gives_insetsField (fs : Fields) (name : String) :
    (Reading.withDefault fs name nothing (Reading.orNull readInsets)).Gives (Lawful kept) :=
  .withDefault gives_nothing fun v _ => .orNull (gives_readInsets v)

lemma gives_edgesOf (fs : Fields) : (edgesOf fs).Gives (Lawful kept) :=
  .seq (.seq (.seq (.seq (.map (.any _) fun _ _ _ hl _ ht _ hr _ hb =>
      lawful_edges.2 ⟨hl, ht, hr, hb⟩)
    (gives_spacingField fs _)) (gives_spacingField fs _)) (gives_spacingField fs _))
    (gives_spacingField fs _)

lemma gives_readEdges (h : v.Lawful kept) : v.readEdges.Gives (Lawful kept) := by
  unfold readEdges
  split
  · exact .pure h
  · exact gives_edgesOf _
  · exact .refuse _

lemma gives_edgesField (h : fs.Lawful kept) (name : String) :
    (Reading.withDefault fs name nothing (Reading.orNull readEdges)).Gives (Lawful kept) :=
  .withDefault gives_nothing fun _ hv => .orNull (gives_readEdges (h.get? hv))

/-! ### Nodes -/

lemma gives_slotOf (h : fs.Lawful kept) :
    (slotOf fs).Gives fun v => v.Lawful kept ∧ v.isChild = true :=
  .seq (.seq (.seq (.seq (.seq (.map (.any _) fun _ _ _ hk _ hs _ hi _ he _ hn =>
      ⟨lawful_slot.2 ⟨hn, hk, hs, hi, he⟩, rfl⟩)
    (.withDefault (.pure (.atom rfl)) fun v _ => gives_word _ v))
    (.required fun _ _ => gives_atom (fun _ => rfl) _))
    (gives_insetsField fs _)) (gives_edgesField h _))
    (.withDefault (.pure ⟨1, rfl, by decide⟩) fun v _ => gives_count v)

lemma gives_groupOf (h : fs.Lawful kept) {children : Reading Value}
    (hc : children.Gives fun v => v.AreChildren ∧ v.Lawful kept) :
    (groupOf fs children).Gives fun v => v.Lawful kept ∧ v.isChild = true :=
  .seq (.seq (.seq (.seq (.seq (.seq (.seq (.map (.any _)
      fun _ _ _ hk _ hs _ hi _ he _ hd _ hg _ hcs =>
        ⟨lawful_group.2 ⟨hcs.1, hk, hs, hi, he, hd, hg, hcs.2⟩, rfl⟩)
    (.withDefault (.pure (.atom rfl)) fun v _ => gives_word _ v))
    (.required fun _ _ => gives_atom (fun _ => rfl) _))
    (gives_insetsField fs _)) (gives_edgesField h _))
    (.withDefault (.pure (.atom rfl)) fun _ _ => gives_atom (fun _ => rfl) _))
    (gives_spacingField fs _)) hc

lemma gives_fragmentOf (fs : Fields) {items : Reading Value} (hi : items.Gives (Lawful kept)) :
    (fragmentOf fs items).Gives (Lawful kept) :=
  .seq (.seq (.map (.any _) fun _ _ _ hk _ hxs => lawful_fragment.2 ⟨hk, hxs⟩)
    (.withDefault (.pure (.atom rfl)) fun v _ => gives_word _ v)) hi

lemma gives_noElements {P : List Value → Prop} (v : Value) : v.noElements.Gives P := by
  unfold noElements
  split
  · exact (Gives.refuse _).under _
  · exact .refuse _

lemma gives_nested {P : Value → Prop} (outer : Nesting) (type : String) (id : Nat)
    {r : Nesting → Reading Value} (h : ∀ inner, (r inner).Gives P) :
    (nested outer type id r).Gives P := by
  unfold nested
  rcases outer.enter? type id with _ | inner
  · exact .refuse _
  · exact h inner

/-- A row of readings whose values have a property. -/
lemma gives_cons {P : Value → Prop} {i : Nat} {r : Reading Value} {rs : Reading (List Value)}
    (h : r.Gives P) (hs : rs.Gives fun vs => ∀ v ∈ vs, P v) :
    (List.cons <$> r.under (.index i) <*> rs).Gives fun vs => ∀ v ∈ vs, P v :=
  .seq (.map (h.under _) fun _ ha _ has => List.forall_mem_cons.2 ⟨ha, has⟩) hs

lemma lawful_children {vs : List Value} (h : ∀ v ∈ vs, v.Lawful kept ∧ v.isChild = true) :
    (Value.tuple vs).AreChildren ∧ (Value.tuple vs).Lawful kept :=
  ⟨⟨vs, rfl, fun v hv => (h v hv).2⟩, lawful_tuple.2 fun v hv => (h v hv).1⟩

mutual

/-- By induction on the fields, down to the dicts among the children. -/
lemma gives_childrenOf (outer : Nesting) (fs : Fields) (h : fs.Lawful kept) :
    (childrenOf outer fs).Gives fun v => v.AreChildren ∧ v.Lawful kept := by
  match fs with
  | [] => exact .pure (lawful_children fun v hv => absurd hv List.not_mem_nil)
  | (k, v) :: fs =>
    rw [childrenOf]
    obtain ⟨hv, hfs⟩ := List.forall_mem_cons.1 h
    split
    · exact .given _ (.map (gives_children outer v hv) fun vs hvs => lawful_children hvs)
    · exact gives_childrenOf outer fs hfs

lemma gives_children (outer : Nesting) (v : Value) (h : v.Lawful kept) :
    (children outer v).Gives fun vs => ∀ v ∈ vs, v.Lawful kept ∧ v.isChild = true := by
  cases v with
  | list xs => exact (gives_childrenFrom outer 0 xs (lawful_list.1 h)).atMost _
  | tuple xs => exact gives_childrenFrom outer 0 xs (lawful_tuple.1 h)
  | _ =>
    simp only [children]
    exact gives_noElements _

lemma gives_childrenFrom (outer : Nesting) (i : Nat) (vs : List Value)
    (h : ∀ v ∈ vs, v.Lawful kept) :
    (childrenFrom outer i vs).Gives fun vs => ∀ v ∈ vs, v.Lawful kept ∧ v.isChild = true := by
  match vs with
  | [] => exact .pure fun v hv => absurd hv List.not_mem_nil
  | v :: vs =>
    obtain ⟨hv, hvs⟩ := List.forall_mem_cons.1 h
    rw [childrenFrom]
    exact gives_cons (gives_child outer v hv) (gives_childrenFrom outer (i + 1) vs hvs)

lemma gives_child (outer : Nesting) (v : Value) (h : v.Lawful kept) :
    (child outer v).Gives fun v => v.Lawful kept ∧ v.isChild = true := by
  have hrefuse : (Reading.choose [("Slot", Reading.refuse .notModel),
      ("Group", Reading.refuse .notModel)] : Reading Value).Gives
        fun v => v.Lawful kept ∧ v.isChild = true := by
    refine .choose fun p hp => ?_
    simp only [List.mem_cons, List.not_mem_nil, or_false] at hp
    rcases hp with rfl | rfl <;> exact .refuse _
  cases v with
  | slot => exact .pure ⟨h, rfl⟩
  | group => exact .pure ⟨h, rfl⟩
  | dict id fs =>
    have hfs := lawful_dict.1 h
    have hgroup : ∀ inner, (groupOf fs (childrenOf inner fs)).Gives
        fun v => v.Lawful kept ∧ v.isChild = true := fun inner =>
      gives_groupOf hfs (gives_childrenOf inner fs hfs)
    refine .choose fun p hp => ?_
    simp only [List.mem_cons, List.not_mem_nil, or_false] at hp
    rcases hp with rfl | rfl
    · exact gives_slotOf hfs
    · exact gives_nested outer _ id hgroup
  | _ => exact hrefuse

end

mutual

/-- By induction on the fields, down to the dicts among the items. -/
lemma gives_itemsOf (outer : Nesting) (fs : Fields) (h : fs.Lawful kept) :
    (itemsOf outer fs).Gives (Lawful kept) := by
  match fs with
  | [] => exact .pure (lawful_tuple.2 fun v hv => absurd hv List.not_mem_nil)
  | (k, v) :: fs =>
    rw [itemsOf]
    obtain ⟨hv, hfs⟩ := List.forall_mem_cons.1 h
    split
    · exact .given _ (.map (gives_items outer v hv) fun vs => lawful_tuple.2)
    · exact gives_itemsOf outer fs hfs

lemma gives_items (outer : Nesting) (v : Value) (h : v.Lawful kept) :
    (items outer v).Gives fun vs => ∀ v ∈ vs, v.Lawful kept := by
  cases v with
  | list xs => exact (gives_itemsFrom outer 0 xs (lawful_list.1 h)).atMost _
  | tuple xs => exact gives_itemsFrom outer 0 xs (lawful_tuple.1 h)
  | _ =>
    simp only [items]
    exact gives_noElements _

lemma gives_itemsFrom (outer : Nesting) (i : Nat) (vs : List Value)
    (h : ∀ v ∈ vs, v.Lawful kept) :
    (itemsFrom outer i vs).Gives fun vs => ∀ v ∈ vs, v.Lawful kept := by
  match vs with
  | [] => exact .pure fun v hv => absurd hv List.not_mem_nil
  | v :: vs =>
    obtain ⟨hv, hvs⟩ := List.forall_mem_cons.1 h
    rw [itemsFrom]
    exact gives_cons (gives_node outer v hv) (gives_itemsFrom outer (i + 1) vs hvs)

lemma gives_node (outer : Nesting) (v : Value) (h : v.Lawful kept) :
    (node outer v).Gives (Lawful kept) := by
  have hrefuse : (Reading.choose [("Slot", Reading.refuse .notModel),
      ("Group", Reading.refuse .notModel), ("Fragment", Reading.refuse .notModel)] :
        Reading Value).Gives (Lawful kept) := by
    refine .choose fun p hp => ?_
    simp only [List.mem_cons, List.not_mem_nil, or_false] at hp
    rcases hp with rfl | rfl | rfl <;> exact .refuse _
  cases v with
  | slot => exact .pure h
  | group => exact .pure h
  | fragment => exact .pure h
  | dict id fs =>
    have hfs := lawful_dict.1 h
    have hgroup : ∀ inner, (groupOf fs (childrenOf inner fs)).Gives (Lawful kept) := fun inner =>
      (gives_groupOf hfs (gives_childrenOf inner fs hfs)).mono fun _ hv => hv.1
    have hfragment : ∀ inner, (fragmentOf fs (itemsOf inner fs)).Gives (Lawful kept) :=
      fun inner => gives_fragmentOf fs (gives_itemsOf inner fs hfs)
    refine .choose fun p hp => ?_
    simp only [List.mem_cons, List.not_mem_nil, or_false] at hp
    rcases hp with rfl | rfl | rfl
    · exact (gives_slotOf hfs).mono fun _ hv => hv.1
    · exact gives_nested outer _ id hgroup
    · exact gives_nested outer _ id hfragment
  | _ => exact hrefuse

end

/-! ### Host objects -/

lemma gives_hostItemOf (h : fs.Lawful kept) : (hostItemOf fs).Gives (Lawful kept) :=
  .seq (.seq (.seq (.seq (.map (.any _) fun _ _ _ _ _ _ _ hi _ he =>
      lawful_item.2 ⟨hi, he⟩) (.any _)) (.any _))
    (.withDefault gives_noInsets fun v _ => gives_readInsets v)) (gives_edgesField h _)

lemma gives_hostGroupOf (h : fs.Lawful kept) {subitems : Reading (List Value)}
    (hs : subitems.Gives fun vs => ∀ v ∈ vs, v.Lawful kept) :
    (hostGroupOf fs subitems).Gives (Lawful kept) :=
  .seq (.seq (.seq (.seq (.seq (.seq (.seq (.seq (.map (.any _)
      fun _ _ _ _ _ _ _ _ _ hvs _ hn _ hi _ he _ hg =>
        lawful_itemGroup.2 ⟨hvs, hn, hi, he, hg⟩)
    (.any _)) (.any _)) (.any _)) hs)
    (.withDefault gives_nothing fun v _ => .orNull (gives_whole v)))
    (.withDefault gives_noInsets fun v _ => gives_readInsets v)) (gives_edgesField h _))
    (gives_spacingField fs _)

mutual

/-- By induction on the fields, down to the dicts among the subitems. -/
lemma gives_subitemsOf (outer : Nesting) (fs : Fields) (h : fs.Lawful kept) :
    (subitemsOf outer fs).Gives fun vs => ∀ v ∈ vs, v.Lawful kept := by
  match fs with
  | [] => exact (Gives.refuse _).under _
  | (k, v) :: fs =>
    rw [subitemsOf]
    obtain ⟨hv, hfs⟩ := List.forall_mem_cons.1 h
    split
    · exact (gives_subitems outer v hv).given _
    · exact gives_subitemsOf outer fs hfs

lemma gives_subitems (outer : Nesting) (v : Value) (h : v.Lawful kept) :
    (subitems outer v).Gives fun vs => ∀ v ∈ vs, v.Lawful kept := by
  cases v with
  | list xs => exact (gives_subitemsFrom outer 0 xs (lawful_list.1 h)).atMost _
  | tuple xs => exact gives_subitemsFrom outer 0 xs (lawful_tuple.1 h)
  | _ =>
    simp only [subitems]
    exact gives_noElements _

lemma gives_subitemsFrom (outer : Nesting) (i : Nat) (vs : List Value)
    (h : ∀ v ∈ vs, v.Lawful kept) :
    (subitemsFrom outer i vs).Gives fun vs => ∀ v ∈ vs, v.Lawful kept := by
  match vs with
  | [] => exact .pure fun v hv => absurd hv List.not_mem_nil
  | v :: vs =>
    obtain ⟨hv, hvs⟩ := List.forall_mem_cons.1 h
    rw [subitemsFrom]
    exact gives_cons (gives_subitem outer v hv) (gives_subitemsFrom outer (i + 1) vs hvs)

lemma gives_subitem (outer : Nesting) (v : Value) (h : v.Lawful kept) :
    (subitem outer v).Gives (Lawful kept) := by
  have hrefuse : (Reading.choose [("Item", Reading.refuse .notModel),
      ("ItemGroup", Reading.refuse .notModel)] : Reading Value).Gives (Lawful kept) := by
    refine .choose fun p hp => ?_
    simp only [List.mem_cons, List.not_mem_nil, or_false] at hp
    rcases hp with rfl | rfl <;> exact .refuse _
  cases v with
  | item => exact .pure h
  | itemGroup => exact .pure h
  | dict id fs =>
    have hfs := lawful_dict.1 h
    have hgroup : ∀ inner, (hostGroupOf fs (subitemsOf inner fs)).Gives (Lawful kept) :=
      fun inner => gives_hostGroupOf hfs (gives_subitemsOf inner fs hfs)
    refine .choose fun p hp => ?_
    simp only [List.mem_cons, List.not_mem_nil, or_false] at hp
    rcases hp with rfl | rfl
    · exact gives_hostItemOf hfs
    · exact gives_nested outer _ id hgroup
  | _ => exact hrefuse

end

lemma gives_readHostGroup (h : v.Lawful kept) : v.readHostGroup.Gives (Lawful kept) := by
  unfold readHostGroup
  split
  · exact .pure h
  · have hfs := lawful_dict.1 h
    exact gives_nested [] _ _ fun inner =>
      gives_hostGroupOf hfs (gives_subitemsOf inner _ hfs)
  · exact .refuse _

lemma gives_hostSectionOf (h : fs.Lawful kept) : (hostSectionOf fs).Gives (Lawful kept) :=
  .seq (.seq (.seq (.map (.any _) fun _ _ _ hg _ hi _ _ =>
      lawful_hostSection.2 ⟨hg, hi⟩)
    (.required fun _ hv => gives_readHostGroup (h.get? hv)))
    (.withDefault gives_noInsets fun v _ => gives_readInsets v)) (.any _)

lemma gives_readHostSection (h : v.Lawful kept) : v.readHostSection.Gives (Lawful kept) := by
  unfold readHostSection
  split
  · exact .pure h
  · exact gives_hostSectionOf (lawful_dict.1 h)
  · exact .refuse _

lemma gives_sectionsFrom (i : Nat) {vs : List Value} (h : ∀ v ∈ vs, v.Lawful kept) :
    (sectionsFrom i vs).Gives fun vs => ∀ v ∈ vs, v.Lawful kept := by
  induction vs generalizing i with
  | nil => exact .pure fun v hv => absurd hv List.not_mem_nil
  | cons v vs ih =>
    obtain ⟨hv, hvs⟩ := List.forall_mem_cons.1 h
    exact gives_cons (gives_readHostSection hv) (ih (i + 1) hvs)

lemma gives_readSections (h : v.Lawful kept) :
    v.readSections.Gives fun vs => ∀ v ∈ vs, v.Lawful kept := by
  unfold readSections
  split
  · exact (gives_sectionsFrom 0 (lawful_list.1 h)).atMost _
  · exact gives_sectionsFrom 0 (lawful_tuple.1 h)
  · exact gives_noElements _

/-! ### All types -/

lemma gives_ofFields? {type : String} {id : Nat} {r : Reading Value} (h : fs.Lawful kept)
    (hr : ofFields? type id fs = some r) : r.Gives (Lawful kept) := by
  have hgroup : ∀ inner, (groupOf fs (childrenOf inner fs)).Gives (Lawful kept) := fun inner =>
    (gives_groupOf h (gives_childrenOf inner fs h)).mono fun _ hv => hv.1
  unfold ofFields? at hr
  split at hr <;> cases hr
  · exact gives_atom (fun _ => rfl) _
  · exact gives_atom (fun _ => rfl) _
  · exact gives_atom (fun _ => rfl) _
  · exact gives_edgesOf fs
  · exact gives_atom (fun _ => rfl) _
  · exact (gives_slotOf h).mono fun _ hv => hv.1
  · exact gives_nested [] _ id hgroup
  · exact gives_nested [] _ id fun inner => gives_fragmentOf fs (gives_itemsOf inner fs h)
  · exact gives_hostItemOf h
  · exact gives_nested [] _ id fun inner => gives_hostGroupOf h (gives_subitemsOf inner fs h)
  · exact gives_hostSectionOf h
  · exact .seq (.map (.any _) fun _ _ vs => lawful_hostLayout.2)
      (.required fun _ hv => gives_readSections (h.get? hv))

end Value

namespace Run

open Fault

variable {ev : Evaluator} {F : Fault → Prop} {v : Value} {fs : Fields}

/-! ### Settling -/

lemma ensures_settleDrawn (hev : ev.Lawful kept F) (id : Nat) {settle : Value → Run Value}
    (hs : ∀ v : Value, v.Lawful kept → (settle v).Ensures kept ev Own (Value.Lawful kept)) (n : Nat)
    {xs : List Value} (h : ∀ x ∈ xs, x.Lawful kept) :
    (settleDrawn id settle n xs).Ensures kept ev Own (Value.Lawful kept) := by
  have hlist : ∀ {ys : List Value}, (∀ y ∈ ys, y.Lawful kept) →
      (Value.list ys.reverse).Lawful kept := fun hys =>
    Value.lawful_list.2 fun y hy => hys y (List.mem_reverse.1 hy)
  induction n generalizing xs with
  | zero => exact .pure (hlist h)
  | succ n ih =>
    have hdraw : (tryCatch (some <$> draw id) fun _ => pure none : Run (Option (Option Value))
        ).Ensures kept ev Own fun o => ∀ x, o = some (some x) → x.Lawful kept := by
      refine .tryCatch (.map (ensures_draw hev id) fun o ho x hx => ?_) fun _ _ =>
        .pure fun x hx => by cases hx
      cases hx
      exact ho x rfl
    refine .bind hdraw fun o ho => ?_
    rcases o with _ | _ | x
    · exact .pure (.atom rfl)
    · exact .pure (hlist h)
    · exact .bind (hs x (ho x rfl)) fun y hy => ih (List.forall_mem_cons.2 ⟨hy, h⟩)

lemma ensures_settleOther (h : v.Lawful kept) :
    (settleOther v).Ensures kept ev Own (Value.Lawful kept) := by
  unfold settleOther
  split
  · exact .pure h
  · exact .pure h
  · split
    · exact .pure h
    · refine .bind (ensures_elementsAtHand? h) fun o ho => ?_
      rcases o with _ | xs
      · exact .pure h
      · exact .pure (Value.lawful_list.2 (ho xs rfl))

lemma ensures_nested (outer : Nesting) (type : String) (id : Nat)
    {settle : Nesting → Run (Option Value)} {P : Option Value → Prop} (hn : P none)
    (h : ∀ inner, (settle inner).Ensures kept ev Own P) :
    (nested outer type id settle).Ensures kept ev Own P := by
  unfold nested
  rcases outer.enter? type id with _ | inner
  · exact .pure hn
  · exact h inner

lemma lawful_replaced {o : Option Value} (ho : ∀ v, o = some v → v.Lawful kept)
    (h : fs.Lawful kept) (name : String) : (replaced name o fs).Lawful kept := by
  rcases o with _ | v
  · exact h
  · exact h.put (ho v rfl)

/-- Lawful values are settled as lawful values. -/
def Settles (kept : Prop) (ev : Evaluator) (settle : Shape → Nesting → Value → Run Value) :
    Prop :=
  ∀ shape outer (v : Value), v.Lawful kept →
    (settle shape outer v).Ensures kept ev Own (Value.Lawful kept)

mutual

/-- By induction on the value. -/
lemma ensures_settleWith (hev : ev.Lawful kept F) {deep : Shape → Nesting → Value → Run Value}
    (hd : Settles kept ev deep) (shape : Shape) (outer : Nesting) (v : Value) (h : v.Lawful kept) :
    (settleWith deep shape outer v).Ensures kept ev Own (Value.Lawful kept) := by
  cases v with
  | dict id fs =>
    have hfs := Value.lawful_dict.1 h
    have hpart : ∀ shape type name, (nested outer type id fun inner =>
        settlePart deep shape inner name fs).Ensures kept ev Own
          fun o => ∀ v, o = some v → v.Lawful kept :=
      fun shape type name => ensures_nested outer type id (fun v hv => by cases hv) fun inner =>
        ensures_settlePart hev hd shape inner name fs hfs
    have hdict : ∀ {o : Option Value} {gs : Fields} (name : String),
        (∀ v, o = some v → v.Lawful kept) → gs.Lawful kept →
          (Value.dict id (replaced name o gs)).Lawful kept :=
      fun name ho hgs => Value.lawful_dict.2 (lawful_replaced ho hgs name)
    cases shape with
    | child => exact .bind (hpart _ _ _) fun c hc => .pure (hdict _ hc hfs)
    | fragment => exact .bind (hpart _ _ _) fun c hc => .pure (hdict _ hc hfs)
    | node =>
      exact .bind (hpart _ _ _) fun c hc => .bind (hpart _ _ _) fun i hi =>
        .pure (hdict _ hi (lawful_replaced hc hfs _))
    | subitem => exact .bind (hpart _ _ _) fun c hc => .pure (hdict _ hc hfs)
    | hostSection =>
      exact .bind (ensures_settleGroup hev hd fs hfs) fun g hg => .pure (hdict _ hg hfs)
    | hostLayout =>
      exact .bind (ensures_settlePart hev hd _ _ _ fs hfs) fun c hc => .pure (hdict _ hc hfs)
    | flat => exact .pure h
  | _ => exact .pure h

lemma ensures_settleSequence (hev : ev.Lawful kept F) {deep : Shape → Nesting → Value → Run Value}
    (hd : Settles kept ev deep) (shape : Shape) (outer : Nesting) (v : Value) (h : v.Lawful kept) :
    (settleSequence deep shape outer v).Ensures kept ev Own (Value.Lawful kept) := by
  cases v with
  | list xs =>
    exact (ensures_settleEach hev hd shape outer xs (Value.lawful_list.1 h)).map fun _ =>
      Value.lawful_list.2
  | tuple xs =>
    exact (ensures_settleEach hev hd shape outer xs (Value.lawful_tuple.1 h)).map fun _ =>
      Value.lawful_tuple.2
  | cursor kind id =>
    exact .bind (ensures_cursor (.inl rfl) id) fun c _ =>
      ensures_settleDrawn hev id (hd shape outer) _ fun x hx => absurd hx List.not_mem_nil
  | _ => exact ensures_settleOther h

lemma ensures_settleEach (hev : ev.Lawful kept F) {deep : Shape → Nesting → Value → Run Value}
    (hd : Settles kept ev deep) (shape : Shape) (outer : Nesting) (vs : List Value)
    (h : ∀ v ∈ vs, v.Lawful kept) :
    (settleEach deep shape outer vs).Ensures kept ev Own fun ws => ∀ w ∈ ws, w.Lawful kept := by
  cases vs with
  | nil => exact .pure fun v hv => absurd hv List.not_mem_nil
  | cons v vs =>
    obtain ⟨hv, hvs⟩ := List.forall_mem_cons.1 h
    exact .cons (ensures_settleWith hev hd shape outer v hv)
      (ensures_settleEach hev hd shape outer vs hvs)

lemma ensures_settlePart (hev : ev.Lawful kept F) {deep : Shape → Nesting → Value → Run Value}
    (hd : Settles kept ev deep) (shape : Shape) (outer : Nesting) (name : String) (fs : Fields)
    (h : fs.Lawful kept) : (settlePart deep shape outer name fs).Ensures kept ev Own
      fun o => ∀ v, o = some v → v.Lawful kept := by
  match fs with
  | [] => exact .pure fun v hv => by cases hv
  | (k, v) :: fs =>
    obtain ⟨hv, hfs⟩ := List.forall_mem_cons.1 h
    rw [settlePart]
    split
    · refine (ensures_settleSequence hev hd shape outer v hv).map fun w hw u hu => ?_
      cases hu
      exact hw
    · exact ensures_settlePart hev hd shape outer name fs hfs

lemma ensures_settleGroup (hev : ev.Lawful kept F) {deep : Shape → Nesting → Value → Run Value}
    (hd : Settles kept ev deep) (fs : Fields) (h : fs.Lawful kept) :
    (settleGroup deep fs).Ensures kept ev Own fun o => ∀ v, o = some v → v.Lawful kept := by
  match fs with
  | [] => exact .pure fun v hv => by cases hv
  | (k, v) :: fs =>
    obtain ⟨hv, hfs⟩ := List.forall_mem_cons.1 h
    rw [settleGroup]
    split
    · refine (ensures_settleWith hev hd .subitem [] v hv).map fun w hw u hu => ?_
      cases hu
      exact hw
    · exact ensures_settleGroup hev hd fs hfs

end

section Making

variable (hev : ev.Lawful kept F)
include hev

lemma ensures_settleWithin (n : Nat) (shape : Shape) (outer : Nesting) (h : v.Lawful kept) :
    (settleWithin n shape outer v).Ensures kept ev Own (Value.Lawful kept) := by
  induction n generalizing shape outer v with
  | zero => exact .throw (.inr rfl)
  | succ n ih => exact ensures_settleWith hev (fun shape outer v => ih shape outer) _ _ _ h

/-! ### Making values -/

omit hev in
lemma ensures_finish (type : String) {r : Reading Value} (h : r.Gives (Value.Lawful kept)) :
    (finish type r).Ensures kept ev Own (Value.Lawful kept) := by
  intro s hs
  rw [exec_finish]
  unfold finished
  rcases hr : r s.serial with ⟨⟨v, g, e⟩ | is, n⟩
  · exact ⟨{ hs with }, h v g e n s.serial hr⟩
  · exact ⟨{ hs with }, .inl rfl⟩

/-- What is made from lawful fields is lawful. The errors of code that is run meanwhile do not come
through: they count as the end of an iteration that failed. -/
lemma ensures_construct_own (type : String) (h : fs.Lawful kept) :
    (construct type fs).Ensures kept ev Own (Value.Lawful kept) := by
  refine .bind .read fun ev' _ => .bind (ensures_newDict h) fun v hv => ?_
  refine .bind (ensures_settleWithin hev _ _ _ hv) fun w hw => ?_
  split
  · split
    · exact ensures_finish type (Value.gives_ofFields? (Value.lawful_dict.1 hw) ‹_›)
    · exact .throw (.inl rfl)
  · exact .throw (.inl rfl)

lemma ensures_construct (type : String) (h : fs.Lawful kept) :
    (construct type fs).Ensures kept ev F (Value.Lawful kept) :=
  (ensures_construct_own hev type h).own hev

end Making

end Run

end LayoutTree
