import LayoutTree.Proofs.Decoding.Counted
import LayoutTree.Proofs.Decoding.Unfolding

/-!
Plain data that a node was unfolded into are read as an equal node.

Each dict says which type it stands for, so that of several types no other one can read it. Groups
and fragments are read in one another as deep as dicts may be nested, and not deeper.
-/

namespace LayoutTree

open Reading

/-! ### Readings that read something -/

namespace Verdict

variable {α : Type}

@[simp] lemma value?_under (step : Step) (v : Verdict α) : (v.under step).value? = v.value? := by
  cases v <;> rfl

lemma isSome_better (v w : Verdict α) :
    (v.better w).value?.isSome = (v.value?.isSome || w.value?.isSome) := by
  cases v <;> cases w <;> unfold better <;> dsimp only
  · split <;> rfl
  · rfl
  · rfl
  · rfl

end Verdict

namespace Reading

variable {α β : Type}

/-- From any free identity on something is read, and it has a property. -/
def Finds (P : α → Prop) (r : Reading α) : Prop := ∀ n, ∃ a, (r n).1.value? = some a ∧ P a

namespace Finds

variable {P Q : α → Prop} {r : Reading α}

lemma pure {a : α} (h : P a) : (Pure.pure a : Reading α).Finds P := fun _ => ⟨a, rfl, h⟩

lemma made : made.Finds fun _ => True := fun n => ⟨n, rfl, trivial⟩

lemma mono (h : r.Finds P) (hpq : ∀ a, P a → Q a) : r.Finds Q := fun n =>
  (h n).imp fun a ha => ⟨ha.1, hpq a ha.2⟩

lemma judged {f : Verdict α → Verdict α} (hf : ∀ v, (f v).value? = v.value?) (h : r.Finds P) :
    (r.judged f).Finds P := fun n => (h n).imp fun _ ha => ⟨(hf _).trans ha.1, ha.2⟩

lemma given (name : String) (h : r.Finds P) : (r.given name).Finds P :=
  h.judged (Verdict.value?_given name)

lemma atMost (bound : Exactness) (h : r.Finds P) : (r.atMost bound).Finds P :=
  h.judged (Verdict.value?_atMost bound)

lemma under (step : Step) (h : r.Finds P) : (r.under step).Finds P :=
  h.judged (Verdict.value?_under step)

lemma map {f : α → β} {B : β → Prop} (h : r.Finds P) (hf : ∀ a, P a → B (f a)) :
    (f <$> r).Finds B := by
  intro n
  obtain ⟨a, ha, hp⟩ := h n
  exact ⟨f a, by rw [map_apply, Verdict.value?_map, ha]; rfl, hf a hp⟩

/-- Both parts of a reading have to be read. -/
lemma seq {f : Reading (α → β)} {B : β → Prop} (hf : f.Finds fun k => ∀ a, P a → B (k a))
    (h : r.Finds P) : (f <*> r).Finds B := by
  intro n
  obtain ⟨k, hk, hB⟩ := hf n
  obtain ⟨a, ha, hp⟩ := h (f n).2
  exact ⟨k a, by rw [seq_apply, Verdict.value?_both, hk, ha]; rfl, hB a hp⟩

variable {fs : Fields} {name : String} {v : Value} {read : Value → Reading α}

lemma required (hv : fs.get? name = some v) (h : (read v).Finds P) :
    (required fs name read).Finds P := by
  unfold Reading.required
  rw [hv]
  exact h.given name

lemma withDefault {default : Reading α} (hv : fs.get? name = some v) (h : (read v).Finds P) :
    (withDefault fs name default read).Finds P := by
  unfold Reading.withDefault
  rw [hv]
  exact h.given name

/-- Something is chosen if one of the readings reads something and no other one does. -/
lemma choose {rs : List (String × Reading α)} (hr : r ∈ rs.map (·.2)) (h : r.Finds P)
    (hrs : ∀ p ∈ rs, ∀ a, p.2.Reads a → p.2 = r) : (choose rs).Finds P := by
  have hsome : ∀ n, (Reading.choose rs n).1.value?.isSome = true := by
    clear hrs
    induction rs with
    | nil => cases hr
    | cons p rs ih =>
      intro n
      rw [Reading.choose, Verdict.isSome_better, Bool.or_eq_true]
      rcases List.mem_cons.1 hr with rfl | hr
      · obtain ⟨a, ha, -⟩ := h.under (.name p.1) n
        exact .inl (by rw [ha]; rfl)
      · exact .inr (ih hr _)
  intro n
  obtain ⟨a, ha⟩ := Option.isSome_iff_exists.1 (hsome n)
  refine ⟨a, ha, ?_⟩
  rcases hc : Reading.choose rs n with ⟨⟨b, g, e⟩ | is, m⟩ <;> rw [hc] at ha
  · -- whichever was chosen is this reading
    cases ha
    obtain ⟨p, hp, k, l, hread⟩ := exists_of_choose hc
    rw [hrs p hp a ⟨_, _, _, _, hread⟩] at hread
    obtain ⟨c, hc, hP⟩ := h k
    rw [hread] at hc
    cases hc
    exact hP
  · cases ha

end Finds

/-- What is chosen was read by the only reading that reads anything. -/
lemma reads_of_choose {rs : List (String × Reading α)} {r : Reading α} {a : α}
    (hrs : ∀ p ∈ rs, ∀ a, p.2.Reads a → p.2 = r) (h : (choose rs).Reads a) : r.Reads a := by
  obtain ⟨g, e, m, n, h⟩ := h
  obtain ⟨p, hp, k, l, hread⟩ := exists_of_choose h
  have hp : p.2 = r := hrs p hp a ⟨_, _, _, _, hread⟩
  exact ⟨_, _, _, _, hp ▸ hread⟩

end Reading

/-! ### Sizes, spacings and insets -/

namespace Value

/-- The other value is equal, and it is unfolded into the same data. -/
def Restores (around : List Nat) (d v w : Value) : Prop :=
  v.same w = true ∧ Unfolds around w d

variable {around : List Nat} {d : Value}

lemma finds_dimension {x : Dimension} (h : Unfolds around (.dimension x) d) :
    d.readDimension.Finds fun y => x.same y = true ∧ Unfolds around (.dimension y) d := by
  obtain ⟨id, hid, rfl⟩ := unfolds_dimension_iff.1 h
  intro n
  refine ⟨{ x with id := n }, ?_, by simp [Dimension.same], unfolds_dimension_iff.2 ⟨id, hid, rfl⟩⟩
  obtain ⟨_, m, _⟩ := x
  cases m <;> rfl

lemma finds_size {z : LayoutSize} (h : Unfolds around (.size z) d) :
    (Value.size <$> d.readSize).Finds fun v =>
      ∃ y, v = .size y ∧ Restores around d (.size z) v := by
  obtain ⟨id, hid, x, y, ⟨hx, hy⟩, rfl⟩ := unfolds_size_iff.1 h
  refine Finds.map (P := fun w => z.same w = true ∧ Unfolds around (.size w) _)
    (.seq (.seq (Finds.made.map ?_) (.required rfl (finds_dimension hx)))
      (.required rfl (finds_dimension hy))) fun w hw => ⟨w, rfl, hw⟩
  intro n _ x' hx y' hy
  obtain ⟨hx, hx'⟩ := hx
  obtain ⟨hy, hy'⟩ := hy
  refine ⟨?_, unfolds_size_iff.2 ⟨id, hid, x, y, ⟨hx', hy'⟩, rfl⟩⟩
  simp [LayoutSize.same, hx, hy]

lemma finds_spacing {g : Spacing} (h : Unfolds around (.spacing g) d) :
    d.readSpacing.Finds fun v => ∃ y, v = .spacing y ∧ Restores around d (.spacing g) v := by
  obtain ⟨id, hid, rfl⟩ := unfolds_spacing_iff.1 h
  intro n
  refine ⟨.spacing { g with id := n }, ?_, _, rfl, by simp [Spacing.same],
    unfolds_spacing_iff.2 ⟨id, hid, rfl⟩⟩
  obtain ⟨_, m, _⟩ := g
  cases m <;> rfl

lemma finds_insets {i : Insets} (h : Unfolds around (.insets i) d) :
    d.readInsets.Finds fun v => ∃ y, v = .insets y ∧ Restores around d (.insets i) v := by
  obtain ⟨id, hid, rfl⟩ := unfolds_insets_iff.1 h
  exact fun n => ⟨.insets { i with id := n }, rfl, _, rfl, by simp [Insets.same],
    unfolds_insets_iff.2 ⟨id, hid, rfl⟩⟩

/-- A value that may be null is null again, or read as what it is. -/
lemma finds_ofOption {α : Type} {f : α → Value} {read : Value → Reading Value} {o : Option α}
    (h : Unfolds around (.ofOption f o) d)
    (hf : ∀ a, ∃ fs, (f a).fields? = some fs)
    (hread : ∀ a, Unfolds around (f a) d →
      (read d).Finds fun v => ∃ b, v = f b ∧ Restores around d (f a) v) :
    (orNull read d).Finds fun v =>
      ∃ p, v = .ofOption f p ∧ Restores around d (.ofOption f o) v := by
  cases o with
  | none =>
    obtain rfl := unfolds_null_iff.1 h
    exact .pure ⟨none, rfl, rfl, .leaf rfl⟩
  | some a =>
    obtain ⟨fs, hfs⟩ := hf a
    obtain ⟨id, gs, -, -, rfl⟩ := (unfolds_model_iff hfs).1 h
    refine (hread a h).mono ?_
    rintro v ⟨b, rfl, hv⟩
    exact ⟨some b, rfl, hv⟩

lemma finds_edges {e : EdgeSpacing} (h : Unfolds around e.toValue d) :
    d.readEdges.Finds fun v => ∃ y : EdgeSpacing, v = y.toValue ∧
      Restores around d e.toValue v := by
  obtain ⟨id, hid, l, t, r, b, ⟨hl, ht, hr, hb⟩, rfl⟩ := unfolds_edges_iff.1 h
  have hspacing : ∀ {d : Value} {o : Option Spacing},
      Unfolds (id :: around) (.ofOption .spacing o) d →
      (orNull readSpacing d).Finds fun v => ∃ p, v = .ofOption .spacing p ∧
        Restores (id :: around) d (.ofOption .spacing o) v := fun h =>
    finds_ofOption h (fun _ => ⟨_, rfl⟩) fun _ => finds_spacing
  refine .seq (.seq (.seq (.seq (Finds.made.map ?_) (.withDefault rfl (hspacing hl)))
    (.withDefault rfl (hspacing ht))) (.withDefault rfl (hspacing hr)))
    (.withDefault rfl (hspacing hb))
  intro n _ _ hleading _ htop _ htrailing _ hbottom
  obtain ⟨l', rfl, hl, hl'⟩ := hleading
  obtain ⟨t', rfl, ht, ht'⟩ := htop
  obtain ⟨r', rfl, hr, hr'⟩ := htrailing
  obtain ⟨b', rfl, hb, hb'⟩ := hbottom
  refine ⟨⟨n, l', t', r', b'⟩, rfl, ?_,
    (unfolds_edges_iff (e := ⟨n, l', t', r', b'⟩)).2
      ⟨id, hid, l, t, r, b, ⟨hl', ht', hr', hb'⟩, rfl⟩⟩
  rw [EdgeSpacing.toValue, same_edges, hl, ht, hr, hb]
  rfl

/-! ### Slots, groups and fragments -/

variable {id : Nat} {fs : Fields}

lemma finds_count {n : Nat} (h : 0 < n) : (Value.int n).count.Finds (· = .int n) := by
  have hpos : isPositive (.int n) = true := decide_eq_true (by omega)
  intro t
  refine ⟨.int n, ?_, rfl⟩
  change (Verdict.check isPositive .tooSmall (.read (.int n) 0 .exact)).value? = _
  rw [Verdict.check, if_pos hpos]
  rfl

lemma finds_slot {s : Slot} (h : Unfolds around s.toValue (.dict id fs)) :
    (slotOf fs).Finds fun v =>
      ∃ t : Slot, v = t.toValue ∧ Restores around (.dict id fs) s.toValue v := by
  obtain ⟨_, hid, z, i, e, ⟨hz, hi, he⟩, heq⟩ := unfolds_slot_iff.1 h
  cases heq
  have hkind : ((Value.text "slot").word "slot").Finds (· = .text "slot") := .pure rfl
  have hinsets := finds_ofOption hi (fun _ => ⟨_, rfl⟩) fun _ => finds_insets
  have hedges := finds_ofOption he (fun _ => ⟨_, rfl⟩) fun _ => finds_edges
  refine .seq (.seq (.seq (.seq (.seq (Finds.made.map ?_) (.withDefault rfl hkind))
    (.required rfl (finds_size hz))) (.withDefault rfl hinsets)) (.withDefault rfl hedges))
    (.withDefault rfl (finds_count s.count_pos))
  rintro n - _ rfl _ hsize _ hinsets _ hedges _ rfl
  obtain ⟨z', rfl, hz, hz'⟩ := hsize
  obtain ⟨i', rfl, hi, hi'⟩ := hinsets
  obtain ⟨e', rfl, he, he'⟩ := hedges
  refine ⟨⟨n, z', i', e', s.count, s.count_pos⟩, rfl, ?_,
    (unfolds_slot_iff (s := ⟨n, z', i', e', s.count, s.count_pos⟩)).2
      ⟨_, hid, z, i, e, ⟨hz', hi', he'⟩, rfl⟩⟩
  rw [Slot.toValue, same_slot, hz, hi, he]
  simp

/-! ### Groups and fragments -/

/-- The other values are equal, and they are unfolded into the same data. -/
def RestoresAll (around : List Nat) (ds vs ws : List Value) : Prop :=
  sameAll vs ws = true ∧ UnfoldsAll around ws ds

/-- The reading of a dict as a group. -/
def groupReader (outer : Nesting) (id : Nat) (fs : Fields) : Reading Value :=
  Value.nested outer "Group" id fun inner => groupOf fs (childrenOf inner fs)

/-- The reading of a dict as a fragment. -/
def fragmentReader (outer : Nesting) (id : Nat) (fs : Fields) : Reading Value :=
  Value.nested outer "Fragment" id fun inner => fragmentOf fs (itemsOf inner fs)

/-- The readings of a dict as a node. -/
def readers (outer : Nesting) (id : Nat) (fs : Fields) : List (String × Reading Value) :=
  [("Slot", slotOf fs), ("Group", groupReader outer id fs),
    ("Fragment", fragmentReader outer id fs)]

/-- The reading of a dict as what a node is. -/
def reader (outer : Nesting) (id : Nat) (fs : Fields) : Grove → Reading Value
  | .tree (.slot _) => slotOf fs
  | .tree (.group ..) => groupReader outer id fs
  | .fragment .. => fragmentReader outer id fs

/-- A node is unfolded into a dict, which says of which kind the node is. -/
lemma exists_dict {n : Grove} (h : Unfolds around n.toValue d) :
    ∃ id fs, d = .dict id fs ∧ Fields.get? fs "kind" = some (.text n.kind) := by
  obtain ⟨gs, hgs⟩ := n.exists_fields
  obtain ⟨id, _, -, hfs, rfl⟩ := (unfolds_model_iff n.fields?_toValue).1 h
  rw [hgs] at hfs
  obtain ⟨_, hk, hs, -, rfl⟩ := unfoldsFields_cons_iff.1 hfs
  refine ⟨id, _, rfl, ?_⟩
  rw [unfolds_text_iff.1 hk]
  rfl

/-- A dict that says of which kind it is is read as nothing else. -/
lemma eq_reader {n : Grove} {outer : Nesting} (hk : fs.get? "kind" = some (.text n.kind))
    {p : String × Reading Value} (hp : p ∈ readers outer id fs) {v : Value} (hv : p.2.Reads v) :
    p.2 = reader outer id fs n := by
  have hkind : ∀ {word : String}, Value.text n.kind = .text word → n.kind = word := fun h => by
    cases h
    rfl
  simp only [readers, List.mem_cons, List.not_mem_nil, or_false] at hp
  rcases hp with rfl | rfl | rfl
  · obtain ⟨_, _, _, _, _, _, -, hword, -⟩ := reads_slotOf hv
    rcases n with (_ | _) | _ <;> first | rfl | simpa [Grove.kind] using hkind (hword _ hk)
  · obtain ⟨-, hv⟩ := Reads.nested hv
    obtain ⟨_, _, _, _, _, _, _, _, -, hword, -⟩ := reads_groupOf hv
    rcases n with (_ | _) | _ <;> first | rfl | simpa [Grove.kind] using hkind (hword _ hk)
  · obtain ⟨-, hv⟩ := Reads.nested hv
    obtain ⟨_, _, _, -, hword, -⟩ := reads_fragmentOf hv
    rcases n with (_ | _) | _ <;> first | rfl | simpa [Grove.kind] using hkind (hword _ hk)

/-- A group is read if its children are, inside of the dict that it is read from. -/
lemma finds_group {f : Frame} {vs : List Value} {outer : Nesting}
    (h : Unfolds around (f.toValue vs) (.dict id fs)) (hnew : ∀ p ∈ outer, p.1 ∈ around)
    (hroom : outer.length < Nesting.limit)
    (hchildren : ∀ ds, UnfoldsAll (id :: around) vs ds →
      (childrenFrom ((id, "Group") :: outer) 0 ds).Finds fun ws => ∃ us, ws = Tree.toValues us ∧
        RestoresAll (id :: around) ds vs ws) : (groupReader outer id fs).Finds fun v =>
      ∃ t : Tree, v = t.toValue ∧ Restores around (.dict id fs) (f.toValue vs) v := by
  obtain ⟨_, hid, z, i, e, g, ds, ⟨hz, hi, he, hg, hds⟩, heq⟩ := unfolds_group_iff.1 h
  cases heq
  have henter : outer.enter? "Group" id = some ((id, "Group") :: outer) :=
    Nesting.enter?_eq_some_iff.2 ⟨fun hmem => hid (hnew _ hmem), hroom, rfl⟩
  have hkind : ((Value.text "group").word "group").Finds (· = .text "group") := .pure rfl
  have hinsets := finds_ofOption hi (fun _ => ⟨_, rfl⟩) fun _ => finds_insets
  have hedges := finds_ofOption he (fun _ => ⟨_, rfl⟩) fun _ => finds_edges
  have hspacing := finds_ofOption hg (fun _ => ⟨_, rfl⟩) fun _ => finds_spacing
  have hdirection : (Value.direction <$> (Value.text f.direction.text).readDirection).Finds
      (· = .direction f.direction) := by
    cases f.direction <;> exact .pure rfl
  have hlist := Finds.given "children" (Finds.map (f := tuple)
    (B := fun v => ∃ us, v = .tuple (Tree.toValues us) ∧
      RestoresAll (id :: around) ds vs (Tree.toValues us))
    ((hchildren ds hds).atMost .converted) fun _ ⟨us, hus, h⟩ => ⟨us, hus ▸ rfl, hus ▸ h⟩)
  unfold groupReader Value.nested
  rw [henter]
  refine .seq (.seq (.seq (.seq (.seq (.seq (.seq (Finds.made.map ?_) (.withDefault rfl hkind))
    (.required rfl (finds_size hz))) (.withDefault rfl hinsets)) (.withDefault rfl hedges))
    (.withDefault rfl hdirection)) (.withDefault rfl hspacing)) hlist
  rintro n - _ rfl _ hsize _ hinsets _ hedges _ rfl _ hspacing _ hchildren
  obtain ⟨z', rfl, hz, hz'⟩ := hsize
  obtain ⟨i', rfl, hi, hi'⟩ := hinsets
  obtain ⟨e', rfl, he, he'⟩ := hedges
  obtain ⟨g', rfl, hg, hg'⟩ := hspacing
  obtain ⟨us, rfl, hus, hus'⟩ := hchildren
  refine ⟨.group ⟨n, z', i', e', f.direction, g'⟩ us, rfl, ?_,
    (unfolds_group_iff (f := ⟨n, z', i', e', f.direction, g'⟩)).2
      ⟨_, hid, z, i, e, g, ds, ⟨hz', hi', he', hg', hus'⟩, rfl⟩⟩
  rw [Frame.toValue, same_group, hz, hi, he, hg, same_tuple, hus]
  simp

/-- A fragment is read if its parts are, inside of the dict that it is read from. -/
lemma finds_fragment {i : Nat} {vs : List Value} {outer : Nesting}
    (h : Unfolds around (.fragment i (.text "fragment") (.tuple vs)) (.dict id fs))
    (hnew : ∀ p ∈ outer, p.1 ∈ around) (hroom : outer.length < Nesting.limit)
    (hitems : ∀ ds, UnfoldsAll (id :: around) vs ds →
      (itemsFrom ((id, "Fragment") :: outer) 0 ds).Finds fun ws => ∃ ns, ws = Grove.toValues ns ∧
        RestoresAll (id :: around) ds vs ws) : (fragmentReader outer id fs).Finds fun v =>
      ∃ n : Grove, v = n.toValue ∧
        Restores around (.dict id fs) (.fragment i (.text "fragment") (.tuple vs)) v := by
  obtain ⟨_, hid, ds, hds, heq⟩ := unfolds_fragment_iff.1 h
  cases heq
  have henter : outer.enter? "Fragment" id = some ((id, "Fragment") :: outer) :=
    Nesting.enter?_eq_some_iff.2 ⟨fun hmem => hid (hnew _ hmem), hroom, rfl⟩
  have hkind : ((Value.text "fragment").word "fragment").Finds (· = .text "fragment") := .pure rfl
  have hlist := Finds.given "items" (Finds.map (f := tuple)
    (B := fun v => ∃ ns, v = .tuple (Grove.toValues ns) ∧
      RestoresAll (id :: around) ds vs (Grove.toValues ns))
    ((hitems ds hds).atMost .converted) fun _ ⟨ns, hns, h⟩ => ⟨ns, hns ▸ rfl, hns ▸ h⟩)
  unfold fragmentReader Value.nested
  rw [henter]
  refine .seq (.seq (Finds.made.map ?_) (.withDefault rfl hkind)) hlist
  rintro n - _ rfl _ ⟨ns, rfl, hns, hns'⟩
  refine ⟨.fragment n ns, rfl, ?_, unfolds_fragment_iff.2 ⟨_, hid, ds, hns', rfl⟩⟩
  simp [same_tuple, hns]

mutual

/-- A dict that a slot or a group was unfolded into is read as one. -/
lemma finds_tree (t : Tree) {around : List Nat} {outer : Nesting} {id : Nat} {fs : Fields}
    (h : Unfolds around t.toValue (.dict id fs)) (hnew : ∀ p ∈ outer, p.1 ∈ around)
    (hroom : outer.length + t.depth ≤ Nesting.limit) : (reader outer id fs (.tree t)).Finds fun v =>
      ∃ u : Tree, v = u.toValue ∧ Restores around (.dict id fs) t.toValue v := by
  cases t with
  | slot s =>
    refine (finds_slot h).mono ?_
    rintro v ⟨t, rfl, ht⟩
    exact ⟨.slot t, rfl, ht⟩
  | group f ts =>
    rw [Tree.depth] at hroom
    refine finds_group h hnew (by omega) fun ds hds => ?_
    refine finds_childrenFrom ts hds ?_ (by rw [List.length_cons]; omega)
    exact List.forall_mem_cons.2 ⟨List.mem_cons_self, fun p hp =>
      List.mem_cons_of_mem _ (hnew p hp)⟩

lemma finds_childrenFrom (ts : List Tree) {around : List Nat} {outer : Nesting} {i : Nat}
    {ds : List Value} (h : UnfoldsAll around (Tree.toValues ts) ds)
    (hnew : ∀ p ∈ outer, p.1 ∈ around)
    (hroom : outer.length + Tree.depths ts ≤ Nesting.limit) :
    (childrenFrom outer i ds).Finds fun ws => ∃ us, ws = Tree.toValues us ∧
      RestoresAll around ds (Tree.toValues ts) ws := by
  cases ts with
  | nil =>
    cases h
    exact .pure ⟨[], rfl, rfl, .nil⟩
  | cons t ts =>
    cases h with
    | cons hd hds =>
      rw [Tree.depths] at hroom
      obtain ⟨id, fs, rfl, hk⟩ := exists_dict (n := .tree t) hd
      have hchild : (choose [("Slot", slotOf fs), ("Group", groupReader outer id fs)]).Finds _ :=
        .choose (by cases t <;> simp [reader]) (finds_tree t hd hnew (by omega))
          fun p hp v hv => eq_reader hk (List.mem_append_left [_] hp) hv
      have hrest := finds_childrenFrom ts (i := i + 1) hds hnew (by omega)
      refine .seq ((hchild.under _).map ?_) hrest
      rintro _ ⟨u, rfl, hu, hu'⟩ _ ⟨us, rfl, hus, hus'⟩
      refine ⟨u :: us, rfl, ?_, .cons hu' hus'⟩
      simp [Tree.toValues, hu, hus]

end

mutual

/-- A dict that a node was unfolded into is read as an equal one. -/
lemma finds_grove (n : Grove) {around : List Nat} {outer : Nesting} {id : Nat} {fs : Fields}
    (h : Unfolds around n.toValue (.dict id fs)) (hnew : ∀ p ∈ outer, p.1 ∈ around)
    (hroom : outer.length + n.depth ≤ Nesting.limit) : (reader outer id fs n).Finds fun v =>
      ∃ m : Grove, v = m.toValue ∧ Restores around (.dict id fs) n.toValue v := by
  cases n with
  | tree t =>
    refine (finds_tree t h hnew hroom).mono ?_
    rintro v ⟨u, rfl, hu⟩
    exact ⟨.tree u, rfl, hu⟩
  | fragment i ps =>
    rw [Grove.depth] at hroom
    refine finds_fragment h hnew (by omega) fun ds hds => ?_
    refine finds_itemsFrom ps hds ?_ (by rw [List.length_cons]; omega)
    exact List.forall_mem_cons.2 ⟨List.mem_cons_self, fun p hp =>
      List.mem_cons_of_mem _ (hnew p hp)⟩

lemma finds_itemsFrom (ps : List Grove) {around : List Nat} {outer : Nesting} {i : Nat}
    {ds : List Value} (h : UnfoldsAll around (Grove.toValues ps) ds)
    (hnew : ∀ p ∈ outer, p.1 ∈ around)
    (hroom : outer.length + Grove.depths ps ≤ Nesting.limit) :
    (itemsFrom outer i ds).Finds fun ws => ∃ ms, ws = Grove.toValues ms ∧
      RestoresAll around ds (Grove.toValues ps) ws := by
  cases ps with
  | nil =>
    cases h
    exact .pure ⟨[], rfl, rfl, .nil⟩
  | cons n ps =>
    cases h with
    | cons hd hds =>
      rw [Grove.depths] at hroom
      obtain ⟨id, fs, rfl, hk⟩ := exists_dict hd
      have hnode : (choose (readers outer id fs)).Finds _ :=
        .choose (by rcases n with (_ | _) | _ <;> simp [reader, readers])
          (finds_grove n hd hnew (by omega)) fun p hp v hv => eq_reader hk hp hv
      have hrest := finds_itemsFrom ps (i := i + 1) hds hnew (by omega)
      refine .seq ((hnode.under _).map ?_) hrest
      rintro _ ⟨m, rfl, hm, hm'⟩ _ ⟨ms, rfl, hms, hms'⟩
      refine ⟨m :: ms, rfl, ?_, .cons hm' hms'⟩
      simp [Grove.toValues, hm, hms]

end

/-! ### How deep dicts are read in one another -/

mutual

lemma depth_le_of_tree (t : Tree) {around : List Nat} {outer : Nesting} {id : Nat} {fs : Fields}
    {v : Value} (h : Unfolds around t.toValue (.dict id fs))
    (houter : outer.length ≤ Nesting.limit) (hv : (reader outer id fs (.tree t)).Reads v) :
    outer.length + t.depth ≤ Nesting.limit := by
  cases t with
  | slot s => exact houter
  | group f ts =>
    obtain ⟨hroom, hv⟩ := Reads.nested hv
    obtain ⟨_, -, z, i, e, g, ds, ⟨-, -, -, -, hds⟩, heq⟩ := unfolds_group_iff.1 h
    cases heq
    obtain ⟨_, _, _, _, _, _, _, _, -, -, hcs⟩ := reads_groupOf hv
    obtain ⟨cs, -, hcs⟩ := reads_childrenOf hcs rfl
    have hinner := depths_le_of_childrenFrom ts hds (by rw [List.length_cons]; omega)
      (Reads.atMost hcs)
    rw [List.length_cons] at hinner
    rw [Tree.depth]
    omega

lemma depths_le_of_childrenFrom (ts : List Tree) {around : List Nat} {outer : Nesting} {i : Nat}
    {ds ws : List Value} (h : UnfoldsAll around (Tree.toValues ts) ds)
    (houter : outer.length ≤ Nesting.limit) (hws : (childrenFrom outer i ds).Reads ws) :
    outer.length + Tree.depths ts ≤ Nesting.limit := by
  cases ts with
  | nil => exact houter
  | cons t ts =>
    cases h with
    | cons hd hds =>
      obtain ⟨id, fs, rfl, hk⟩ := exists_dict (n := .tree t) hd
      obtain ⟨_, us, hw, hus, -⟩ := Reads.seq hws
      obtain ⟨u, hu, -⟩ := hw.map
      have hreader : (reader outer id fs (.tree t)).Reads u :=
        reads_of_choose (fun p hp v hv => eq_reader hk (List.mem_append_left [_] hp) hv) hu.under
      have hfirst := depth_le_of_tree t hd houter hreader
      have hrest := depths_le_of_childrenFrom ts hds houter hus
      rw [Tree.depths]
      omega

end

mutual

/-- What a node was unfolded into is read only if the dicts in one another are not too many. -/
lemma depth_le_of_grove (n : Grove) {around : List Nat} {outer : Nesting} {id : Nat} {fs : Fields}
    {v : Value} (h : Unfolds around n.toValue (.dict id fs))
    (houter : outer.length ≤ Nesting.limit) (hv : (reader outer id fs n).Reads v) :
    outer.length + n.depth ≤ Nesting.limit := by
  cases n with
  | tree t => exact depth_le_of_tree t h houter hv
  | fragment i ps =>
    obtain ⟨hroom, hv⟩ := Reads.nested hv
    obtain ⟨_, -, ds, hds, heq⟩ := unfolds_fragment_iff.1 h
    cases heq
    obtain ⟨_, _, _, -, -, hxs⟩ := reads_fragmentOf hv
    obtain ⟨xs, -, hxs⟩ := reads_itemsOf hxs rfl
    have hinner := depths_le_of_itemsFrom ps hds (by rw [List.length_cons]; omega)
      (Reads.atMost hxs)
    rw [List.length_cons] at hinner
    rw [Grove.depth]
    omega

lemma depths_le_of_itemsFrom (ps : List Grove) {around : List Nat} {outer : Nesting} {i : Nat}
    {ds ws : List Value} (h : UnfoldsAll around (Grove.toValues ps) ds)
    (houter : outer.length ≤ Nesting.limit) (hws : (itemsFrom outer i ds).Reads ws) :
    outer.length + Grove.depths ps ≤ Nesting.limit := by
  cases ps with
  | nil => exact houter
  | cons n ps =>
    cases h with
    | cons hd hds =>
      obtain ⟨id, fs, rfl, hk⟩ := exists_dict hd
      obtain ⟨_, us, hw, hus, -⟩ := Reads.seq hws
      obtain ⟨u, hu, -⟩ := hw.map
      have hreader : (reader outer id fs n).Reads u :=
        reads_of_choose (fun p hp v hv => eq_reader hk hp hv) hu.under
      have hfirst := depth_le_of_grove n hd houter hreader
      have hrest := depths_le_of_itemsFrom ps hds houter hus
      rw [Grove.depths]
      omega

end

end Value

/-! ### Round trips -/

open Run

namespace Grove

variable (ev : Evaluator) {s : Session}

/-- What a node was unfolded into is settled as it is, and is read as what the node is. -/
lemma exec_construct_unfolded (n : Grove) {fs : Fields}
    (h : n.toValue.Unfolds [] (.dict s.serial fs)) :
    (construct n.toValue.typeName fs).exec ev s =
      finished n.toValue.typeName (Value.reader [] s.serial fs n)
        { s with serial := s.serial + 1 } := by
  have hsettle : (settleWithin (ev.depth + 1) (.ofType n.toValue.typeName) []
      (.dict s.serial fs)).exec ev { s with serial := s.serial + 1 } =
      (.ok (.dict s.serial fs), { s with serial := s.serial + 1 }) := by
    rcases n with (_ | _) | _
    · rfl
    · exact exec_settleWith_plain (.inl rfl) [] _ h.plain.1
    · exact exec_settleWith_plain (.inr (.inl rfl)) [] _ h.plain.1
  rw [exec_construct hsettle]
  rcases n with (_ | _) | _ <;> rfl

/-- Of what a node was unfolded into an equal node is made if the dicts in it are read as deep as
they stand in one another. -/
lemma exec_construct_restores (n : Grove) {fs : Fields}
    (h : n.toValue.Unfolds [] (.dict s.serial fs)) (hdepth : n.depth ≤ Nesting.limit) :
    ∃ (m : Grove) (k : Nat), (construct n.toValue.typeName fs).exec ev s =
        (.ok m.toValue, { s with serial := k }) ∧
      n.toValue.equals m.toValue = true ∧ m.toValue.Unfolds [] (.dict s.serial fs) := by
  have hnew : ∀ p ∈ ([] : Nesting), p.1 ∈ ([] : List Nat) := nofun
  obtain ⟨v, hv, m, rfl, hsame, hunfolds⟩ :=
    Value.finds_grove n h hnew (by simpa using hdepth) (s.serial + 1)
  have hequals : n.toValue.equals m.toValue = true := by
    rcases n with (_ | _) | _ <;> exact hsame
  rw [exec_construct_unfolded ev n h]
  unfold finished
  rcases hr : Value.reader [] s.serial fs n (s.serial + 1) with ⟨⟨w, g, e⟩ | is, k⟩ <;>
    rw [hr] at hv <;> cases hv
  exact ⟨m, k, rfl, hequals, hunfolds⟩

lemma exec_construct_too_deep (n : Grove) {fs : Fields}
    (h : n.toValue.Unfolds [] (.dict s.serial fs)) (hdepth : Nesting.limit < n.depth) :
    ∃ (is : List Issue) (k : Nat), (construct n.toValue.typeName fs).exec ev s =
      (.error (.invalid n.toValue.typeName is), { s with serial := k }) := by
  rw [exec_construct_unfolded ev n h]
  unfold finished
  rcases hr : Value.reader [] s.serial fs n (s.serial + 1) with ⟨⟨v, g, e⟩ | is, k⟩
  · have hle := Value.depth_le_of_grove n h (Nat.zero_le _) ⟨_, _, _, _, hr⟩
    rw [List.length_nil] at hle
    omega
  · exact ⟨is, k, rfl⟩

/-- **Plain data are decoded as the node that they describe**: of whatever dict a validated node is
unfolded into, with all fields of every layout value in it, its class makes a node that equals it
and is unfolded into the same dict. Only where dicts stand deeper in one another than they are read,
the class refuses them. -/
theorem construct_unfolded (n : Grove) {fs : Fields}
    (h : n.toValue.Unfolds [] (.dict s.serial fs)) :
    (n.depth ≤ Nesting.limit → ∃ (m : Grove) (k : Nat),
      (construct n.toValue.typeName fs).exec ev s = (.ok m.toValue, { s with serial := k }) ∧
        n.toValue.equals m.toValue = true ∧ m.toValue.Unfolds [] (.dict s.serial fs)) ∧
    (Nesting.limit < n.depth → ∃ (is : List Issue) (k : Nat),
      (construct n.toValue.typeName fs).exec ev s =
        (.error (.invalid n.toValue.typeName is), { s with serial := k })) :=
  ⟨exec_construct_restores ev n h, exec_construct_too_deep ev n h⟩

/-- A group in a fragment, with one slot in it that has a flexible gap above. -/
theorem construct_unfolded_flexible :
    let s := Session.initial [] false
    let x : Dimension := ⟨0, .absolute, .zero⟩
    let g : Spacing := ⟨0, .flexible, .zero⟩
    let slot : Slot := ⟨0, ⟨0, x, x⟩, none, some ⟨0, none, some g, none, none⟩, 2, by decide⟩
    let group : Frame := ⟨0, ⟨0, x, x⟩, none, none, .vertical, none⟩
    let n : Grove := .fragment 0 [.tree (.group group [.slot slot])]
    let length : Value := .dict 11 [("mode", .text "absolute"), ("value", .float .zero)]
    let size : Value := .dict 12 [("width", length), ("height", length)]
    let gap : Value := .dict 13 [("mode", .text "flexible"), ("value", .float .zero)]
    let edges : Value := .dict 14 [("leading", .null), ("top", gap), ("trailing", .null),
      ("bottom", .null)]
    let slots : Value := .list [.dict 15 [("kind", .text "slot"), ("size", size),
      ("insets", .null), ("edge_spacing", edges), ("replica_count", .int 2)]]
    let groups : Value := .list [.dict 16 [("kind", .text "group"), ("size", size),
      ("insets", .null), ("edge_spacing", .null), ("direction", .text "vertical"),
      ("inter_item_spacing", .null), ("children", slots)]]
    let fs : Fields := [("kind", .text "fragment"), ("items", groups)]
    n.toValue.Unfolds [] (.dict s.serial fs) ∧ ∃ (m : Grove) (k : Nat),
      (construct "Fragment" fs).exec .none s = (.ok m.toValue, { s with serial := k }) ∧
        n.toValue.equals m.toValue = true := by
  intro s x g slot group n length size gap edges slots groups fs
  have hlength : ∀ around, 11 ∉ around → Value.Unfolds around (.dimension x) length :=
    fun _ hid => .model rfl hid (.cons (.leaf rfl) (.cons (.leaf rfl) .nil))
  have hsize : ∀ around, 11 ∉ around → 12 ∉ around →
      Value.Unfolds around (.size ⟨0, x, x⟩) size := by
    intro around hid hid'
    have hinner : 11 ∉ 12 :: around := by simp [hid]
    exact .model rfl hid' (.cons (hlength _ hinner) (.cons (hlength _ hinner) .nil))
  have hedges : Value.Unfolds [15, 16, s.serial]
      (EdgeSpacing.toValue ⟨0, none, some g, none, none⟩) edges := by
    have hgap : Value.Unfolds [14, 15, 16, s.serial] (.spacing g) gap :=
      .model rfl (by decide) (.cons (.leaf rfl) (.cons (.leaf rfl) .nil))
    exact .model rfl (by decide) (.cons (.leaf rfl) (.cons hgap (.cons (.leaf rfl)
      (.cons (.leaf rfl) .nil))))
  have hslots : Value.UnfoldsAll [16, s.serial] [slot.toValue] _ :=
    .cons (.model rfl (by decide) (.cons (.leaf rfl) (.cons (hsize _ (by decide) (by decide))
      (.cons (.leaf rfl) (.cons hedges (.cons (.leaf rfl) .nil)))))) .nil
  have hgroups : Value.UnfoldsAll [s.serial] [group.toValue [slot.toValue]] _ :=
    .cons (.model rfl (by decide) (.cons (.leaf rfl) (.cons (hsize _ (by decide) (by decide))
      (.cons (.leaf rfl) (.cons (.leaf rfl) (.cons (.leaf rfl) (.cons (.leaf rfl)
        (.cons (.tuple hslots) .nil)))))))) .nil
  have h : n.toValue.Unfolds [] (.dict s.serial fs) :=
    .model rfl nofun (.cons (.leaf rfl) (.cons (.tuple hgroups) .nil))
  obtain ⟨m, k, hm, hsame, -⟩ := (construct_unfolded .none n h).1 (by decide)
  exact ⟨h, m, k, hm, hsame⟩

/-- A fragment with so many fragments in one another in it. -/
def nest : Nat → Grove
  | 0 => .fragment 0 []
  | k + 1 => .fragment 0 [nest k]

/-- The fields of such a fragment, the dicts numbered from the innermost on. -/
def nestFields : Nat → Fields
  | 0 => [("kind", .text "fragment"), ("items", .list [])]
  | k + 1 => [("kind", .text "fragment"), ("items", .list [.dict k (nestFields k)])]

lemma depth_nest (k : Nat) : (nest k).depth = k + 1 := by
  induction k with
  | zero => rfl
  | succ k ih => rw [nest, depth, depths, depths, ih, Nat.max_zero]

lemma nest_unfolds (k : Nat) {around : List Nat} {id : Nat} (hid : id ∉ around) (hk : k ≤ id)
    (h : ∀ i ∈ around, k ≤ i) : (nest k).toValue.Unfolds around (.dict id (nestFields k)) := by
  induction k generalizing around id with
  | zero => exact .model rfl hid (.cons (.leaf rfl) (.cons (.tuple .nil) .nil))
  | succ k ih =>
    have hinner : ∀ i ∈ id :: around, k + 1 ≤ i := List.forall_mem_cons.2 ⟨hk, h⟩
    have hnew : k ∉ id :: around := fun hmem => absurd (hinner k hmem) (by omega)
    exact .model rfl hid (.cons (.leaf rfl) (.cons (.tuple (.cons
      (ih hnew (Nat.le_refl k) fun i hi => by have := hinner i hi; omega) .nil)) .nil))

/-- Many fragments in one another are not decoded again, though nothing is wrong with them but that
they are so deep. -/
theorem nested_fragments_refused :
    let s := { Session.initial [] false with serial := 270 }
    (nest 270).toValue.Unfolds [] (.dict s.serial (nestFields 270)) ∧
      ∃ is t, (construct "Fragment" (nestFields 270)).exec .none s =
        (.error (.invalid "Fragment" is), t) := by
  intro s
  have h : (nest 270).toValue.Unfolds [] (.dict s.serial (nestFields 270)) :=
    nest_unfolds 270 List.not_mem_nil (Nat.le_refl _) nofun
  obtain ⟨is, k, hk⟩ := exec_construct_too_deep .none (nest 270) h
    (by rw [depth_nest]; decide)
  exact ⟨h, is, _, hk⟩

end Grove

end LayoutTree
