import LayoutTree.Proofs.Compose.Hosting
import LayoutTree.Proofs.Dict

/-!
Composing with the descriptor engine: which dicts plans are described by, apart from the identities
that dicts take.
-/

namespace LayoutTree

open Run

/-! ### Making dicts -/

/-- The computation makes a value, which is known apart from the identities of dicts, and does
nothing but take identities. -/
def Run.Makes (m : Run Value) (ev : Evaluator) (x : Value) : Prop :=
  ∀ s, ∃ v n, m.exec ev s = (.ok v, { s with serial := n }) ∧ v.bare = x ∧ s.serial ≤ n

namespace Run.Makes

variable {ev : Evaluator} {m : Run Value} {x y : Value} {k : Value → Run Value}

lemma pure {v : Value} (h : v.bare = x) : (Pure.pure v : Run Value).Makes ev x :=
  fun s => ⟨v, s.serial, rfl, h, Nat.le_refl _⟩

lemma bind (hm : m.Makes ev x) (hk : ∀ v, v.bare = x → (k v).Makes ev y) :
    (m >>= k).Makes ev y := by
  intro s
  obtain ⟨v, n, hv, hvx, hn⟩ := hm s
  obtain ⟨w, n', hw, hwy, hn'⟩ := hk v hvx { s with serial := n }
  exact ⟨w, n', by rw [exec_bind_ok hv, hw], hwy, Nat.le_trans hn hn'⟩

/-- What is read changes nothing. -/
lemma read {α : Type} {a : α} {r : Run α} {k : α → Run Value}
    (hr : ∀ s, r.exec ev s = (.ok a, s)) (hk : (k a).Makes ev y) : (r >>= k).Makes ev y := by
  intro s
  rw [exec_bind_ok (hr s)]
  exact hk s

lemma newDict {fs gs : Fields} (h : Value.bareEntries fs = gs) :
    (Run.newDict fs).Makes ev (.dict 0 gs) :=
  fun s => ⟨_, _, exec_newDict ev s fs, by rw [Value.bare, h], Nat.le_succ _⟩

end Run.Makes

/-! ### Fields of boxes -/

namespace Descriptor

def ofDimension (d : Dimension) : Value :=
  .dict 0 [("kind", .text d.mode.label), ("value", .float d.value)]

def ofSize (z : LayoutSize) : Value :=
  .dict 0 [("widthDimension", ofDimension z.width), ("heightDimension", ofDimension z.height)]

def ofSpacing (g : Spacing) : Value :=
  .dict 0 [("kind", .text g.mode.label), ("value", .float g.value)]

def ofInsets (i : Insets) : Value :=
  .dict 0 [("top", .float i.top), ("leading", .float i.leading), ("bottom", .float i.bottom),
    ("trailing", .float i.trailing)]

def ofEdges (e : EdgeSpacing) : Value :=
  .dict 0 [("leading", .ofOption ofSpacing e.leading), ("top", .ofOption ofSpacing e.top),
    ("trailing", .ofOption ofSpacing e.trailing), ("bottom", .ofOption ofSpacing e.bottom)]

variable (ev : Evaluator)

lemma modeLabel_dimension (m : DimensionMode) :
    modeLabel dimensionLabel? (.dimensionMode m) = pure (.text m.label) := by
  simp [modeLabel, Value.unhashable?, Value.text?, dimensionLabel?]

lemma modeLabel_spacing (m : SpacingMode) :
    modeLabel spacingLabel? (.spacingMode m) = pure (.text m.label) := by
  simp [modeLabel, Value.unhashable?, Value.text?, spacingLabel?]

lemma makes_dimension (d : Dimension) :
    (measure dimensionLabel? (.dimension d)).Makes ev (ofDimension d) := by
  unfold measure
  refine .read (fun s => exec_field rfl) ?_
  rw [modeLabel_dimension]
  exact .read (fun s => rfl) (.read (fun s => exec_field rfl) (.newDict rfl))

lemma makes_size (z : LayoutSize) : (size (.size z)).Makes ev (ofSize z) := by
  unfold size
  refine .read (fun s => exec_field rfl) (.bind (makes_dimension ev z.width) fun w hw => ?_)
  refine .read (fun s => exec_field rfl) (.bind (makes_dimension ev z.height) fun h hh => ?_)
  exact .newDict (by simp [Value.bareEntries, hw, hh])

lemma makes_spacing (g : Option Spacing) :
    (spacing (.ofOption .spacing g)).Makes ev (.ofOption ofSpacing g) := by
  cases g with
  | none => exact .pure rfl
  | some g =>
    change (measure spacingLabel? (.spacing g)).Makes ev (ofSpacing g)
    unfold measure
    refine .read (fun s => exec_field rfl) ?_
    rw [modeLabel_spacing]
    exact .read (fun s => rfl) (.read (fun s => exec_field rfl) (.newDict rfl))

lemma makes_insets (i : Insets) : (insets (.insets i)).Makes ev (ofInsets i) := by
  unfold insets
  exact .read (fun s => exec_field rfl) (.read (fun s => exec_field rfl)
    (.read (fun s => exec_field rfl) (.read (fun s => exec_field rfl) (.newDict rfl))))

lemma makes_edges (e : EdgeSpacing) : (edges e.toValue).Makes ev (ofEdges e) := by
  obtain ⟨id, l, t, r, b⟩ := e
  unfold edges
  refine .read (fun s => exec_field rfl) (.bind (makes_spacing ev l) fun vl hl => ?_)
  refine .read (fun s => exec_field rfl) (.bind (makes_spacing ev t) fun vt ht => ?_)
  refine .read (fun s => exec_field rfl) (.bind (makes_spacing ev r) fun vr hr => ?_)
  refine .read (fun s => exec_field rfl) (.bind (makes_spacing ev b) fun vb hb => ?_)
  exact .newDict (by simp [Value.bareEntries, hl, ht, hr, hb])

end Descriptor

/-! ### Plans -/

namespace Plan

mutual

/-- The entries of the dict that describes a plan. A repeated group is described by its copies. -/
def entries : Plan → Fields
  | item z => [("type", .text "item"), ("layoutSize", Descriptor.ofSize z)]
  | group d z ps => [("type", .text "group"), ("direction", .text d.text),
      ("layoutSize", Descriptor.ofSize z), ("subitems", .list (descriptors ps))]
  | repeated d z p n => [("type", .text "group"), ("direction", .text d.text),
      ("layoutSize", Descriptor.ofSize z),
      ("subitems", .list (List.replicate n (.dict 0 p.entries)))]
  | insets p i => p.entries.put "contentInsets" (Descriptor.ofInsets i)
  | edges p e => p.entries.put "edgeSpacing" (Descriptor.ofEdges e)
  | spacing p g => p.entries.put "interItemSpacing" (Descriptor.ofSpacing g)

def descriptors : List Plan → List Value
  | [] => []
  | p :: ps => .dict 0 p.entries :: descriptors ps

end

def descriptor (p : Plan) : Value := .dict 0 p.entries

lemma descriptors_eq_map (ps : List Plan) : descriptors ps = ps.map descriptor := by
  induction ps with
  | nil => rfl
  | cons p ps ih =>
    rw [descriptors, ih]
    rfl

lemma bareAll_eq_descriptors {vs : List Value} {ps : List Plan}
    (h : List.Forall₂ (fun v p => v.bare = descriptor p) vs ps) :
    Value.bareAll vs = descriptors ps := by
  induction h with
  | nil => rfl
  | cons hv _ ih => rw [Value.bareAll, hv, ih, descriptors, descriptor]

lemma exists_dict_of_bare {v : Value} {p : Plan} (h : v.bare = p.descriptor) :
    ∃ id es, v = .dict id es ∧ Value.bareEntries es = p.entries := by
  obtain ⟨id, es, rfl⟩ := Value.eq_dict_of_bare h
  exact ⟨id, es, rfl, (Value.dict.inj h).2⟩

end Plan

namespace Descriptor

variable (ev : Evaluator)

lemma makes_extended {v : Value} {p : Plan} (h : v.bare = p.descriptor) (key : Text)
    {describe : Run Value} {x : Value} (hx : describe.Makes ev x) :
    (extended v key describe).Makes ev (.dict 0 (p.entries.put key x)) := by
  obtain ⟨id, es, rfl, hes⟩ := Plan.exists_dict_of_bare h
  exact .bind hx fun w hw => .newDict (by rw [Value.bareEntries_put, hes, hw])

end Descriptor

namespace EngineClass

/-- The descriptor engine makes what a plan is described by. It does not repeat items. -/
lemma makes_operate_descriptor (ev : Evaluator) {c : EngineClass} (hc : c.kind = .descriptor)
    {p : Plan} {vs : List Value} (hp : p.Takes (fun v p => v.bare = p.descriptor) vs)
    (hm : p.method ≠ "make_repeated_group") :
    (c.operate p.method ⟨vs, []⟩).Makes ev p.descriptor := by
  obtain ⟨kind, label, supports⟩ := c
  obtain rfl : kind = .descriptor := hc
  cases hp with
  | item z =>
    change (Descriptor.makeItem (.size z)).Makes ev _
    exact .bind (Descriptor.makes_size ev z) fun v hv => .newDict (by simp [Value.bareEntries, hv,
      Value.bare, Plan.entries])
  | group d z hv =>
    rename_i vs ps
    change (Descriptor.makeGroup (.direction d) (.size z) (.list vs)).Makes ev _
    refine .read (d.exec_value ev) ?_
    refine .bind (Descriptor.makes_size ev z) fun v hz => ?_
    refine .read (fun s => exec_elements_list ev s vs) (.newDict ?_)
    simp [Value.bareEntries, hz, Value.bare, Plan.entries, Plan.bareAll_eq_descriptors hv]
  | repeated d z n hv => exact absurd rfl hm
  | insets i hv => exact Descriptor.makes_extended ev hv _ (Descriptor.makes_insets ev i)
  | edges e hv => exact Descriptor.makes_extended ev hv _ (Descriptor.makes_edges ev e)
  | spacing g hg hv =>
    exact Descriptor.makes_extended ev hv _ (Descriptor.makes_spacing ev (some g))

end EngineClass

/-! ### Composing -/

/-- The descriptor engine does what plans say, as long as it is not asked to repeat items. -/
lemma realizes_descriptor (ev : Evaluator) {s : Session} {id engine : Nat} {c : EngineClass}
    (hc : c.kind = .descriptor) {C : Composer} (hC : s.composers[id]? = some C)
    (he : C.engine = c.engine engine) (hr : C.repeats.isTruthy = false) (hs : s.Genuine id engine) :
    Realizes ev id C (fun v p => v.bare = p.descriptor) fun _ => s.Grows where
  composes := by
    rintro ps _ ⟨n, -, d, rs, rfl⟩
    exact ⟨hC, hs.composer, ⟨hs.logs.method, hs.logs.number⟩⟩
  logged ht hu := ht.logged hu
  makes := by
    rintro ps t p vs ⟨n, hn, d, rs, ht⟩ hp hm
    have hown : t.attribute? (.object engine) p.method = none := by
      rw [ht]
      exact hs.engine p
    obtain ⟨v, m, hrun, hv, hm⟩ :=
      EngineClass.makes_operate_descriptor ev hc hp (fun h => by simp [hr] at hm; exact hm h) t
    rw [← Plan.exec_call ev hown, ← he] at hrun
    rw [ht] at hm hrun ⊢
    exact ⟨v, _, hrun, hv, m, Nat.le_trans hn hm, d, rs, rfl⟩

/-- What the descriptor engine makes of a group is what describes its plan. -/
lemma agrees_descriptor (ev : Evaluator) (engine : Nat) (on : Option Bool) {s : Session}
    {c : EngineClass} (hc : c.kind = .descriptor) (hn : c.supports = false)
    (hs : s.Genuine s.composers.size engine) (f : Frame) (ts : List Tree) :
    Agrees (fun v p => v.bare = p.descriptor)
      ((composeWith (c.engine engine) on (f.toValue (Tree.toValues ts))).exec ev s).1
      (Tree.plan false f ts) := by
  obtain ⟨r, x, t, hrun, hx, -⟩ := exec_composeWith ev c engine on hs
    (R := fun v p => v.bare = p.descriptor)
    (I := fun s _ => s.Grows) .refl
    (fun C he hr => realizes_descriptor ev hc (s.getElem?_engaging C) he (by simp [hr, hn])
      (hs.engaging C)) f ts
  rw [hn, Bool.false_and] at hx
  rw [hrun]
  exact hx

end LayoutTree
