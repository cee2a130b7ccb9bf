import LayoutTree.Proofs.Compose.Plan
import LayoutTree.Proofs.Decoding.Plain
import LayoutTree.Proofs.Double
import LayoutTree.Proofs.Same
import Mathlib.Data.Fintype.EquivFin

/-!
Validated nodes and the plain data that they are unfolded into.

The data have a dict for each layout value, with all its fields, lists instead of tuples, and texts
instead of members of choices. They determine the node but for identities.
-/

namespace LayoutTree

/-! ### Validated nodes -/

/-- A validated node: a slot or a group, or a fragment of nodes. -/
inductive Grove where
  | tree (t : Tree)
  | fragment (id : Nat) (parts : List Grove)

namespace Grove

mutual

def toValue : Grove → Value
  | tree t => t.toValue
  | fragment id ps => .fragment id (.text "fragment") (.tuple (toValues ps))

def toValues : List Grove → List Value
  | [] => []
  | p :: ps => p.toValue :: toValues ps

end

end Grove

mutual

/-- How many groups stand in one another at most. -/
def Tree.depth : Tree → Nat
  | .slot _ => 0
  | .group _ ts => Tree.depths ts + 1

def Tree.depths : List Tree → Nat
  | [] => 0
  | t :: ts => max t.depth (Tree.depths ts)

end

mutual

/-- How many groups and fragments stand in one another at most. -/
def Grove.depth : Grove → Nat
  | .tree t => t.depth
  | .fragment _ ps => Grove.depths ps + 1

def Grove.depths : List Grove → Nat
  | [] => 0
  | p :: ps => max p.depth (Grove.depths ps)

end

namespace Slot

def fields (s : Slot) : Fields :=
  [("kind", .text "slot"), ("size", .size s.size), ("insets", .ofOption .insets s.insets),
    ("edge_spacing", .ofOption EdgeSpacing.toValue s.edges), ("replica_count", .int s.count)]

lemma fields?_toValue (s : Slot) : s.toValue.fields? = some s.fields := by
  obtain ⟨_, _, _ | _, _ | _, _, _⟩ := s <;> rfl

end Slot

namespace Frame

def fields (f : Frame) (children : List Value) : Fields :=
  [("kind", .text "group"), ("size", .size f.size), ("insets", .ofOption .insets f.insets),
    ("edge_spacing", .ofOption EdgeSpacing.toValue f.edges), ("direction", .direction f.direction),
    ("inter_item_spacing", .ofOption .spacing f.spacing), ("children", .tuple children)]

lemma fields?_toValue (f : Frame) (vs : List Value) :
    (f.toValue vs).fields? = some (f.fields vs) := by
  obtain ⟨_, _, _ | _, _ | _, _, _ | _⟩ := f <;> rfl

end Frame

namespace Grove

def kind : Grove → String
  | tree (.slot _) => "slot"
  | tree (.group ..) => "group"
  | fragment .. => "fragment"

def fields : Grove → Fields
  | tree (.slot s) => s.fields
  | tree (.group f ts) => f.fields (Tree.toValues ts)
  | fragment _ ps => [("kind", .text "fragment"), ("items", .tuple (toValues ps))]

lemma fields?_toValue (n : Grove) : n.toValue.fields? = some n.fields := by
  cases n with
  | tree t =>
    cases t with
    | slot s => exact s.fields?_toValue
    | group f ts => exact f.fields?_toValue _
  | fragment id ps => rfl

lemma exists_fields (n : Grove) :
    ∃ fs : Fields, n.fields = (Text.plain "kind", Value.text n.kind) :: fs := by
  cases n with
  | tree t => cases t <;> exact ⟨_, rfl⟩
  | fragment id ps => exact ⟨_, rfl⟩

end Grove

/-! ### Unfolding -/

namespace Value

/-- A value without parts, as it may stand in a layout value. -/
def isLeaf : Value → Bool
  | .null => true
  | .int _ => true
  | .float _ => true
  | .text _ => true
  | .direction _ => true
  | .dimensionMode _ => true
  | .spacingMode _ => true
  | _ => false

mutual

/-- A value is unfolded into plain data, inside of certain dicts. No dict stands in itself. -/
inductive Unfolds : List Nat → Value → Value → Prop
  | leaf {around : List Nat} {v : Value} : v.isLeaf = true →
      Unfolds around v (v.text?.elim v .text)
  | tuple {around : List Nat} {vs ds : List Value} : UnfoldsAll around vs ds →
      Unfolds around (.tuple vs) (.list ds)
  | model {around : List Nat} {v : Value} {fs gs : Fields} {id : Nat} : v.fields? = some fs →
      id ∉ around → UnfoldsFields (id :: around) fs gs → Unfolds around v (.dict id gs)

inductive UnfoldsAll : List Nat → List Value → List Value → Prop
  | nil {around : List Nat} : UnfoldsAll around [] []
  | cons {around : List Nat} {v d : Value} {vs ds : List Value} : Unfolds around v d →
      UnfoldsAll around vs ds → UnfoldsAll around (v :: vs) (d :: ds)

inductive UnfoldsFields : List Nat → Fields → Fields → Prop
  | nil {around : List Nat} : UnfoldsFields around [] []
  | cons {around : List Nat} {name : Text} {v d : Value} {fs gs : Fields} : Unfolds around v d →
      UnfoldsFields around fs gs → UnfoldsFields around ((name, v) :: fs) ((name, d) :: gs)

end

variable {around : List Nat} {d : Value}

lemma fields?_of_isLeaf {v : Value} (hv : v.isLeaf = true) : v.fields? = none := by
  cases v <;> first | rfl | cases hv

lemma unfolds_leaf_iff {v : Value} (hv : v.isLeaf = true) :
    Unfolds around v d ↔ d = v.text?.elim v .text := by
  constructor
  · intro h
    cases h with
    | leaf => rfl
    | tuple => cases hv
    | model h =>
      rw [fields?_of_isLeaf hv] at h
      cases h
  · rintro rfl
    exact .leaf hv

lemma unfolds_tuple_iff {vs : List Value} :
    Unfolds around (.tuple vs) d ↔ ∃ ds, UnfoldsAll around vs ds ∧ d = .list ds := by
  constructor
  · intro h
    cases h with
    | leaf h => cases h
    | tuple h => exact ⟨_, h, rfl⟩
    | model h => cases h
  · rintro ⟨ds, h, rfl⟩
    exact .tuple h

/-- A layout value is unfolded into a dict. -/
lemma unfolds_model_iff {v : Value} {fs : Fields} (hv : v.fields? = some fs) :
    Unfolds around v d ↔
      ∃ id gs, id ∉ around ∧ UnfoldsFields (id :: around) fs gs ∧ d = .dict id gs := by
  constructor
  · intro h
    cases h with
    | leaf h =>
      rw [fields?_of_isLeaf h] at hv
      cases hv
    | tuple => cases hv
    | model h hid hfs =>
      rw [hv] at h
      cases h
      exact ⟨_, _, hid, hfs, rfl⟩
  · rintro ⟨id, gs, hid, hfs, rfl⟩
    exact .model hv hid hfs

@[simp] lemma unfoldsFields_nil_iff {gs : Fields} : UnfoldsFields around [] gs ↔ gs = [] := by
  constructor
  · rintro ⟨⟩
    rfl
  · rintro rfl
    exact .nil

@[simp] lemma unfoldsFields_cons_iff {name : Text} {v : Value} {fs gs : Fields} :
    UnfoldsFields around ((name, v) :: fs) gs ↔
      ∃ d, Unfolds around v d ∧ ∃ hs, UnfoldsFields around fs hs ∧ gs = (name, d) :: hs := by
  constructor
  · rintro ⟨⟩
    exact ⟨_, ‹_›, _, ‹_›, rfl⟩
  · rintro ⟨d, h, hs, hfs, rfl⟩
    exact .cons h hfs

@[simp] lemma unfolds_null_iff : Unfolds around .null d ↔ d = .null := unfolds_leaf_iff rfl

@[simp] lemma unfolds_int_iff {i : Int} : Unfolds around (.int i) d ↔ d = .int i :=
  unfolds_leaf_iff rfl

@[simp] lemma unfolds_float_iff {x : Double} : Unfolds around (.float x) d ↔ d = .float x :=
  unfolds_leaf_iff rfl

@[simp] lemma unfolds_text_iff {t : Text} : Unfolds around (.text t) d ↔ d = .text t :=
  unfolds_leaf_iff rfl

@[simp] lemma unfolds_direction_iff {c : Direction} :
    Unfolds around (.direction c) d ↔ d = .text c.text := unfolds_leaf_iff rfl

@[simp] lemma unfolds_dimensionMode_iff {m : DimensionMode} :
    Unfolds around (.dimensionMode m) d ↔ d = .text m.text := unfolds_leaf_iff rfl

@[simp] lemma unfolds_spacingMode_iff {m : SpacingMode} :
    Unfolds around (.spacingMode m) d ↔ d = .text m.text := unfolds_leaf_iff rfl

/-! ### The data of layout values -/

lemma unfolds_dimension_iff {x : Dimension} : Unfolds around (.dimension x) d ↔ ∃ id, id ∉ around ∧
    d = .dict id [("mode", .text x.mode.text), ("value", .float x.value)] := by
  simp [unfolds_model_iff (v := .dimension x) rfl]

lemma unfolds_spacing_iff {g : Spacing} : Unfolds around (.spacing g) d ↔ ∃ id, id ∉ around ∧
    d = .dict id [("mode", .text g.mode.text), ("value", .float g.value)] := by
  simp [unfolds_model_iff (v := .spacing g) rfl]

lemma unfolds_insets_iff {i : Insets} : Unfolds around (.insets i) d ↔ ∃ id, id ∉ around ∧
    d = .dict id [("top", .float i.top), ("leading", .float i.leading),
      ("bottom", .float i.bottom), ("trailing", .float i.trailing)] := by
  simp [unfolds_model_iff (v := .insets i) rfl]

lemma unfolds_size_iff {z : LayoutSize} : Unfolds around (.size z) d ↔
    ∃ id, id ∉ around ∧ ∃ w h, (Unfolds (id :: around) (.dimension z.width) w ∧
      Unfolds (id :: around) (.dimension z.height) h) ∧
      d = .dict id [("width", w), ("height", h)] := by
  simp [unfolds_model_iff (v := .size z) rfl]

lemma unfolds_edges_iff {e : EdgeSpacing} : Unfolds around e.toValue d ↔
    ∃ id, id ∉ around ∧ ∃ l t r b, (Unfolds (id :: around) (.ofOption .spacing e.leading) l ∧
      Unfolds (id :: around) (.ofOption .spacing e.top) t ∧
      Unfolds (id :: around) (.ofOption .spacing e.trailing) r ∧
      Unfolds (id :: around) (.ofOption .spacing e.bottom) b) ∧
      d = .dict id [("leading", l), ("top", t), ("trailing", r), ("bottom", b)] := by
  simp [unfolds_model_iff (v := e.toValue) rfl]

lemma unfolds_slot_iff {s : Slot} : Unfolds around s.toValue d ↔
    ∃ id, id ∉ around ∧ ∃ z i e, (Unfolds (id :: around) (.size s.size) z ∧
      Unfolds (id :: around) (.ofOption .insets s.insets) i ∧
      Unfolds (id :: around) (.ofOption EdgeSpacing.toValue s.edges) e) ∧
      d = .dict id [("kind", .text "slot"), ("size", z), ("insets", i), ("edge_spacing", e),
        ("replica_count", .int s.count)] := by
  simp [unfolds_model_iff s.fields?_toValue, Slot.fields]

lemma unfolds_group_iff {f : Frame} {vs : List Value} : Unfolds around (f.toValue vs) d ↔
    ∃ id, id ∉ around ∧ ∃ z i e g ds, (Unfolds (id :: around) (.size f.size) z ∧
      Unfolds (id :: around) (.ofOption .insets f.insets) i ∧
      Unfolds (id :: around) (.ofOption EdgeSpacing.toValue f.edges) e ∧
      Unfolds (id :: around) (.ofOption .spacing f.spacing) g ∧
      UnfoldsAll (id :: around) vs ds) ∧
      d = .dict id [("kind", .text "group"), ("size", z), ("insets", i), ("edge_spacing", e),
        ("direction", .text f.direction.text), ("inter_item_spacing", g),
        ("children", .list ds)] := by
  simp [unfolds_model_iff (f.fields?_toValue vs), Frame.fields, unfolds_tuple_iff]

lemma unfolds_fragment_iff {i : Nat} {vs : List Value} :
    Unfolds around (.fragment i (.text "fragment") (.tuple vs)) d ↔
      ∃ id, id ∉ around ∧ ∃ ds, UnfoldsAll (id :: around) vs ds ∧
        d = .dict id [("kind", .text "fragment"), ("items", .list ds)] := by
  simp [unfolds_model_iff (v := .fragment i _ (.tuple vs)) rfl, unfolds_tuple_iff]

/-! ### There are data -/

/-- A value can be unfolded, inside of whichever dicts. -/
def Unfoldable (v : Value) : Prop := ∀ around, ∃ d, Unfolds around v d

/-- A layout value can be unfolded, into any dict that it does not stand in, if what its fields hold
can. -/
lemma exists_unfolds_dict {v : Value} {fs : Fields} (hv : v.fields? = some fs)
    (h : ∀ f ∈ fs, f.2.Unfoldable) {id : Nat} (hid : id ∉ around) :
    ∃ gs, Unfolds around v (.dict id gs) := by
  have hfields : ∀ {fs : Fields}, (∀ f ∈ fs, f.2.Unfoldable) →
      ∃ gs, UnfoldsFields (id :: around) fs gs := by
    intro fs h
    induction fs with
    | nil => exact ⟨[], .nil⟩
    | cons f fs ih =>
      obtain ⟨d, hd⟩ := h f List.mem_cons_self (id :: around)
      obtain ⟨gs, hgs⟩ := ih fun g hg => h g (List.mem_cons_of_mem f hg)
      exact ⟨_, .cons hd hgs⟩
  obtain ⟨gs, hgs⟩ := hfields h
  exact ⟨gs, .model hv hid hgs⟩

namespace Unfoldable

lemma leaf {v : Value} (hv : v.isLeaf = true) : v.Unfoldable := fun _ => ⟨_, .leaf hv⟩

lemma tuple {vs : List Value} (h : ∀ v ∈ vs, v.Unfoldable) : (Value.tuple vs).Unfoldable := by
  intro around
  suffices hall : ∃ ds, UnfoldsAll around vs ds by
    obtain ⟨ds, hds⟩ := hall
    exact ⟨_, .tuple hds⟩
  induction vs with
  | nil => exact ⟨[], .nil⟩
  | cons v vs ih =>
    obtain ⟨d, hd⟩ := h v List.mem_cons_self around
    obtain ⟨ds, hds⟩ := ih fun w hw => h w (List.mem_cons_of_mem v hw)
    exact ⟨_, .cons hd hds⟩

lemma model {v : Value} {fs : Fields} (hv : v.fields? = some fs)
    (h : ∀ f ∈ fs, f.2.Unfoldable) : v.Unfoldable := by
  intro around
  obtain ⟨id, hid⟩ := Infinite.exists_notMem_finset around.toFinset
  obtain ⟨gs, hgs⟩ := exists_unfolds_dict hv h (List.mem_toFinset.not.1 hid)
  exact ⟨_, hgs⟩

lemma ofOption {α : Type} {f : α → Value} (h : ∀ a, (f a).Unfoldable) (o : Option α) :
    (Value.ofOption f o).Unfoldable := by
  cases o with
  | none => exact .leaf rfl
  | some a => exact h a

lemma dimension (x : Dimension) : (Value.dimension x).Unfoldable :=
  .model rfl (by simpa using ⟨leaf rfl, leaf rfl⟩)

lemma size (z : LayoutSize) : (Value.size z).Unfoldable :=
  .model rfl (by simpa using ⟨dimension _, dimension _⟩)

lemma spacing (g : Spacing) : (Value.spacing g).Unfoldable :=
  .model rfl (by simpa using ⟨leaf rfl, leaf rfl⟩)

lemma insets (i : Insets) : (Value.insets i).Unfoldable :=
  .model rfl (by simpa using ⟨leaf rfl, leaf rfl, leaf rfl, leaf rfl⟩)

lemma edges (e : EdgeSpacing) : e.toValue.Unfoldable :=
  .model rfl (by simpa using ⟨ofOption spacing _, ofOption spacing _, ofOption spacing _,
    ofOption spacing _⟩)

lemma slot (s : Slot) : ∀ f ∈ s.fields, f.2.Unfoldable := by
  simpa [Slot.fields] using ⟨leaf rfl, size _, ofOption insets _, ofOption edges _, leaf rfl⟩

lemma group (f : Frame) {vs : List Value} (h : ∀ v ∈ vs, v.Unfoldable) :
    ∀ g ∈ f.fields vs, g.2.Unfoldable := by
  simpa [Frame.fields] using ⟨leaf rfl, size _, ofOption insets _, ofOption edges _, leaf rfl,
    ofOption spacing _, tuple h⟩

end Unfoldable

end Value

mutual

lemma Tree.unfoldable (t : Tree) : t.toValue.Unfoldable := by
  cases t with
  | slot s => exact .model s.fields?_toValue (.slot s)
  | group f ts => exact .model (f.fields?_toValue _) (.group f (Tree.all_unfoldable ts))

lemma Tree.all_unfoldable (ts : List Tree) : ∀ v ∈ Tree.toValues ts, v.Unfoldable := by
  cases ts with
  | nil => exact nofun
  | cons t ts => exact List.forall_mem_cons.2 ⟨t.unfoldable, Tree.all_unfoldable ts⟩

end

mutual

lemma Grove.unfoldable (n : Grove) : ∀ f ∈ n.fields, f.2.Unfoldable := by
  cases n with
  | tree t =>
    cases t with
    | slot s => exact .slot s
    | group f ts => exact .group f (Tree.all_unfoldable ts)
  | fragment id ps => simpa [Grove.fields] using ⟨.leaf rfl, .tuple (Grove.all_unfoldable ps)⟩

lemma Grove.all_unfoldable (ps : List Grove) : ∀ v ∈ Grove.toValues ps, v.Unfoldable := by
  cases ps with
  | nil => exact nofun
  | cons n ps =>
    exact List.forall_mem_cons.2
      ⟨.model n.fields?_toValue n.unfoldable, Grove.all_unfoldable ps⟩

end

/-- Every node can be unfolded, into a dict of any identity. -/
lemma Grove.exists_unfolds (n : Grove) (id : Nat) : ∃ gs, n.toValue.Unfolds [] (.dict id gs) :=
  Value.exists_unfolds_dict n.fields?_toValue n.unfoldable List.not_mem_nil

/-! ### The data are plain -/

namespace Value

mutual

lemma Unfolds.plain {around : List Nat} {v d : Value} (h : Unfolds around v d) :
    d.Plain ∧ d.PlainRow := by
  cases h with
  | @leaf _ v hv =>
    have hdict : ∀ id fs, v.text?.elim v .text ≠ .dict id fs := by
      rintro id fs h
      cases v <;> first | (cases hv; done) | cases h
    refine ⟨.other hdict, .other ?_⟩
    cases v <;> first | rfl | cases hv
  | tuple hvs => exact ⟨.other nofun, .list hvs.plain⟩
  | model hv hid hfs =>
    have hget : ∀ {name : Text} {x : Value}, Fields.get? _ name = some x → x.PlainRow :=
      fun hx => hfs.plain _ (Fields.mem_of_get? hx)
    exact ⟨.dict (fun x hx => hget hx) fun x hx => hget hx, .other rfl⟩

lemma UnfoldsAll.plain {around : List Nat} {vs ds : List Value} (h : UnfoldsAll around vs ds) :
    ∀ d ∈ ds, d.Plain := by
  cases h with
  | nil => exact nofun
  | cons hv hvs => exact List.forall_mem_cons.2 ⟨hv.plain.1, hvs.plain⟩

lemma UnfoldsFields.plain {around : List Nat} {fs gs : Fields} (h : UnfoldsFields around fs gs) :
    ∀ g ∈ gs, g.2.PlainRow := by
  cases h with
  | nil => exact nofun
  | cons hv hfs => exact List.forall_mem_cons.2 ⟨hv.plain.2, hfs.plain⟩

end

end Value

end LayoutTree
