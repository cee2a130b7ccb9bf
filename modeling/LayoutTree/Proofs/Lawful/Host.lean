import LayoutTree.Host.Section
import LayoutTree.Proofs.Lawful.Tree

/-!
Engines, composers, sections and layouts in lawful sessions. Host objects hold what they are made
of, so whatever a composer gives is lawful as well, and the copies that engines make have the count
and the children that the original has.
-/

namespace LayoutTree

variable {kept : Prop}

open Run Fault

variable {ev : Evaluator} {v w x : Value} {vs : List Value} {a : Arguments} {fs : Fields}

/-! ### Copies -/

namespace Value.Lawful

lemma withId (h : v.Lawful kept) (id : Nat) : (v.withId id).Lawful kept := by
  cases v <;> first
    | exact h
    | exact .atom rfl
    | exact lawful_edges.2 (lawful_edges.1 h)
    | exact lawful_slot.2 (lawful_slot.1 h)
    | exact lawful_group.2 (lawful_group.1 h)
    | exact lawful_fragment.2 (lawful_fragment.1 h)
    | exact lawful_item.2 (lawful_item.1 h)
    | exact lawful_itemGroup.2 (lawful_itemGroup.1 h)
    | exact lawful_hostSection.2 (lawful_hostSection.1 h)
    | exact lawful_hostLayout.2 (lawful_hostLayout.1 h)

lemma inside_replaceField? {name : Text} (hw : Model.replaceField? v name x = some w) :
    ∀ u ∈ w.inside, u = x ∨ u ∈ v.inside := by
  unfold Model.replaceField? at hw
  split at hw <;> cases hw <;> simp only [Value.inside, Value.parts, List.mem_cons] <;> tauto

/-- A copy is irregular only with another count or with other children. -/
lemma replaceField? {name : Text} (h : v.Lawful kept) (hx : x.Lawful kept)
    (hn : name ≠ "replica_count" ∧ name ≠ "children")
    (hw : Model.replaceField? v name x = some w) : w.Lawful kept := by
  refine .intro ?_ ?_ fun u hu => ?_
  · unfold Model.replaceField? at hw
    split at hw <;> cases hw <;> first
      | exact h.regular
      | exact absurd rfl hn.1
      | exact absurd rfl hn.2
  · unfold Model.replaceField? at hw
    split at hw <;> cases hw <;> trivial
  · obtain rfl | hu := inside_replaceField? hw u hu
    · exact hx
    · exact h.inside u hu

end Value.Lawful

namespace Model

lemma ensures_copy {F : Fault → Prop} (h : v.Lawful kept) :
    (copy v).Ensures kept ev F (Value.Lawful kept) := by
  refine ensures_fresh.bind fun id _ => .bind .get fun s hs => ?_
  have hcopy : ∀ u : PUnit, True →
      (pure (v.withId id) : Run Value).Ensures kept ev F (Value.Lawful kept) :=
    fun _ _ => .pure (h.withId id)
  dsimp only
  split
  case h_1 f fs hfs =>
    obtain ⟨i, -, hi⟩ := Option.map_eq_some_iff.1 hfs
    refine .bind (.modify fun t ht => ht.setAttributes _ ?_) hcopy
    rw [← hi]
    exact hs.attributesOf i
  case h_2 => exact hcopy ⟨⟩ trivial

lemma ensures_copyWith {F : Fault → Prop} {name : Text} (h : v.Lawful kept) (hx : x.Lawful kept)
    (hn : name ≠ "replica_count" ∧ name ≠ "children") :
    (copyWith v name x).Ensures kept ev F (Value.Lawful kept) := by
  refine .bind (ensures_copy h) fun w hw => ?_
  split
  case h_1 u hu => exact .pure (hw.replaceField? hx hn hu)
  case h_2 =>
    dsimp only
    split
    · exact .bind (ensures_attach _ _ hx) fun _ _ => .pure hw
    · exact .pure hw

section Operations

variable (hev : ev.Lawful kept Any)
include hev

/-- The engine copies with any method of that name, which is lawful if a script has put it there
and else the object's own. -/
lemma ensures_configured {name : String} (h : v.Lawful kept) (hx : x.Lawful kept)
    (hn : (name : Text) ≠ "replica_count" ∧ (name : Text) ≠ "children") :
    (configured v name x).Ensures kept ev Any (Value.Lawful kept) := by
  refine .bind (ensures_fieldOrMethod hev h) fun f hf => ?_
  obtain hf | ⟨n, hname, rfl⟩ := hf
  · split
    · exact absurd (by decide) (Value.lawful_method.1 hf).1
    · refine .bind (ensures_newDict (.cons hx .nil)) fun d hd => ?_
      exact ensures_call hev hf ⟨fun _ hv => absurd hv List.not_mem_nil, .cons hd .nil⟩
  · cases hname
    exact ensures_copyWith h hx hn

lemma ensures_makeGroup {d z : Value} (hd : d.Lawful kept) (hz : z.Lawful kept)
    (h : v.Lawful kept) :
    (makeGroup d z v).Ensures kept ev Any (Value.Lawful kept) :=
  .bind (ensures_elements hev h) fun _ hxs =>
    ensures_construct hev _ (.cons hz (.cons hd (.cons (Value.lawful_tuple.2 hxs) .nil)))

lemma ensures_makeRepeatedGroup {d z n : Value} (hd : d.Lawful kept) (hz : z.Lawful kept)
    (h : v.Lawful kept) (hn : n.Lawful kept) :
    (makeRepeatedGroup d z v n).Ensures kept ev Any (Value.Lawful kept) :=
  ensures_construct hev _ (.cons hz (.cons hd
    (.cons (Value.lawful_tuple.2 (List.forall_mem_singleton.2 h)) (.cons hn .nil))))

lemma ensures_makeSection {g i : Value} (hg : g.Lawful kept) (hi : i.Lawful kept)
    (h : v.Lawful kept) :
    (makeSection g i v).Ensures kept ev Any (Value.Lawful kept) := by
  have hsection : ∀ j : Value, j.Lawful kept → (construct "Section" [("group", g),
      ("content_insets", j), ("inter_group_spacing", if v.isTruthy then v else .float .zero)]
        ).Ensures kept ev Any (Value.Lawful kept) := fun j hj => by
    refine ensures_construct hev _ (.cons hg (.cons hj (.cons ?_ .nil)))
    split
    · exact h
    · exact .atom rfl
  unfold makeSection
  dsimp only
  split
  · exact hsection i hi
  · exact .bind (ensures_construct hev _ .nil) hsection

lemma ensures_makeLayout (h : v.Lawful kept) :
    (makeLayout v).Ensures kept ev Any (Value.Lawful kept) :=
  .bind (ensures_elements hev h) fun _ hxs =>
    ensures_construct hev _ (.cons (Value.lawful_tuple.2 hxs) .nil)

end Operations

end Model

variable (hev : ev.Lawful kept Any)
include hev

/-! ### Descriptors -/

namespace Descriptor

omit hev in
lemma ensures_modeLabel (label? : Text → Option String) (v : Value) :
    (modeLabel label? v).Ensures kept ev Any (Value.Lawful kept) := by
  unfold modeLabel
  split
  · exact .throw trivial
  · split
    · exact .pure (.atom rfl)
    · exact .bind (ensures_shown _) fun _ _ => .throw trivial

lemma ensures_measure (label? : Text → Option String) (h : v.Lawful kept) :
    (measure label? v).Ensures kept ev Any (Value.Lawful kept) := by
  refine .bind (ensures_field hev h (by decide)) fun _ _ => ?_
  refine .bind (ensures_modeLabel label? _) fun k hk => ?_
  refine .bind (ensures_field hev h (by decide)) fun x hx => ?_
  exact ensures_newDict (.cons hk (.cons hx .nil))

lemma ensures_size (h : v.Lawful kept) : (size v).Ensures kept ev Any (Value.Lawful kept) := by
  refine .bind (ensures_field hev h (by decide)) fun x hx => ?_
  refine .bind (ensures_measure hev _ hx) fun w hw => ?_
  refine .bind (ensures_field hev h (by decide)) fun y hy => ?_
  refine .bind (ensures_measure hev _ hy) fun u hu => ?_
  exact ensures_newDict (.cons hw (.cons hu .nil))

lemma ensures_spacing (h : v.Lawful kept) :
    (spacing v).Ensures kept ev Any (Value.Lawful kept) := by
  unfold spacing
  split
  · exact .pure (.atom rfl)
  · exact ensures_measure hev _ h

lemma ensures_insets (h : v.Lawful kept) : (insets v).Ensures kept ev Any (Value.Lawful kept) := by
  refine .bind (ensures_field hev h (by decide)) fun t ht => ?_
  refine .bind (ensures_field hev h (by decide)) fun l hl => ?_
  refine .bind (ensures_field hev h (by decide)) fun b hb => ?_
  refine .bind (ensures_field hev h (by decide)) fun r hr => ?_
  exact ensures_newDict (.cons ht (.cons hl (.cons hb (.cons hr .nil))))

lemma ensures_edges (h : v.Lawful kept) : (edges v).Ensures kept ev Any (Value.Lawful kept) := by
  refine .bind (ensures_field hev h (by decide)) fun _ hx => ?_
  refine .bind (ensures_spacing hev hx) fun l hl => ?_
  refine .bind (ensures_field hev h (by decide)) fun _ hx => ?_
  refine .bind (ensures_spacing hev hx) fun t ht => ?_
  refine .bind (ensures_field hev h (by decide)) fun _ hx => ?_
  refine .bind (ensures_spacing hev hx) fun r hr => ?_
  refine .bind (ensures_field hev h (by decide)) fun _ hx => ?_
  refine .bind (ensures_spacing hev hx) fun b hb => ?_
  exact ensures_newDict (.cons hl (.cons ht (.cons hr (.cons hb .nil))))

omit hev in
lemma ensures_extended {describe : Run Value} (h : v.Lawful kept) (key : Text)
    (hd : describe.Ensures kept ev Any (Value.Lawful kept)) :
    (extended v key describe).Ensures kept ev Any (Value.Lawful kept) := by
  unfold extended
  split
  · exact .bind hd fun x hx => ensures_newDict ((Value.lawful_dict.1 h).put hx)
  · exact .throw trivial

lemma ensures_makeItem (h : v.Lawful kept) : (makeItem v).Ensures kept ev Any (Value.Lawful kept) :=
  .bind (ensures_size hev h) fun _ hz => ensures_newDict (.cons (.atom rfl) (.cons hz .nil))

lemma ensures_makeGroup {d z : Value} (hd : d.Lawful kept) (hz : z.Lawful kept)
    (h : v.Lawful kept) :
    (makeGroup d z v).Ensures kept ev Any (Value.Lawful kept) := by
  refine .bind (ensures_field hev hd (by decide)) fun k hk => ?_
  refine .bind (ensures_size hev hz) fun y hy => ?_
  refine .bind (ensures_elements hev h) fun xs hxs => ?_
  exact ensures_newDict
    (.cons (.atom rfl) (.cons hk (.cons hy (.cons (Value.lawful_list.2 hxs) .nil))))

lemma ensures_makeSection {g i : Value} (hg : g.Lawful kept) (hi : i.Lawful kept)
    (h : v.Lawful kept) :
    (makeSection g i v).Ensures kept ev Any (Value.Lawful kept) := by
  have hsection : ∀ es : Fields, es.Lawful kept →
      (newDict (([("type", .text "section"), ("group", g)] : Fields) ++ es ++
        (if v.isNull then [] else [("interGroupSpacing", v)] : Fields))).Ensures kept ev Any
          (Value.Lawful kept) := fun es hes => by
    refine ensures_newDict (.append (.append (.cons (.atom rfl) (.cons hg .nil)) hes) ?_)
    split
    · exact .nil
    · exact .cons h .nil
  unfold makeSection
  dsimp only
  split
  · exact hsection [] .nil
  · exact .bind (.map (ensures_insets hev hi) fun j hj => Fields.Lawful.cons hj .nil) hsection

lemma ensures_makeLayout (h : v.Lawful kept) :
    (makeLayout v).Ensures kept ev Any (Value.Lawful kept) :=
  .bind (ensures_elements hev h) fun _ hxs =>
    ensures_newDict (.cons (.atom rfl) (.cons (Value.lawful_list.2 hxs) .nil))

end Descriptor

/-! ### Engines -/

omit hev in
lemma Arguments.Lawful.ensures_required {F : Fault → Prop} (h : a.Lawful kept)
    (hf : F .wrongArguments) (i : Nat) (name : String) :
    (a.required i name).Ensures kept ev F (Value.Lawful kept) := by
  unfold Arguments.required
  rcases hv : a.find? i name with _ | v
  · exact .throw hf
  · exact .pure (h.find? hv)

namespace EngineClass

variable (c : EngineClass)

omit hev in
lemma ensures_traced (method : String) (operands : List Value) {parts : Run (List Value)}
    (h : parts.Ensures kept ev Any fun vs => ∀ v ∈ vs, v.Lawful kept) :
    (c.traced method operands parts).Ensures kept ev Any (Value.Lawful kept) :=
  .bind (ensures_shown _) fun _ _ => .bind (ensures_note _) fun _ _ =>
    .bind h fun _ hxs => .pure (Value.lawful_list.2 hxs)

omit hev in
lemma ensures_traced_pure (method : String) (operands : List Value)
    (h : ∀ v ∈ vs, v.Lawful kept) :
    (c.traced method operands (pure vs)).Ensures kept ev Any (Value.Lawful kept) :=
  c.ensures_traced method operands (.pure h)

lemma ensures_makeItem (h : v.Lawful kept) :
    (c.makeItem v).Ensures kept ev Any (Value.Lawful kept) := by
  unfold makeItem
  split
  · exact ensures_construct hev _ (.cons h .nil)
  · exact Descriptor.ensures_makeItem hev h
  · exact c.ensures_traced_pure _ _ (by simp [h])

lemma ensures_makeGroup {d z : Value} (hd : d.Lawful kept) (hz : z.Lawful kept)
    (h : v.Lawful kept) :
    (c.makeGroup d z v).Ensures kept ev Any (Value.Lawful kept) := by
  unfold makeGroup
  split
  · exact Model.ensures_makeGroup hev hd hz h
  · exact Descriptor.ensures_makeGroup hev hd hz h
  · refine c.ensures_traced _ _ (.bind (ensures_elements hev h) fun xs hxs => .pure ?_)
    simpa [hd, hz, Value.lawful_list] using hxs

lemma ensures_makeRepeatedGroup {d z n : Value} (hd : d.Lawful kept) (hz : z.Lawful kept)
    (h : v.Lawful kept) (hn : n.Lawful kept) :
    (c.makeRepeatedGroup d z v n).Ensures kept ev Any (Value.Lawful kept) := by
  unfold makeRepeatedGroup
  split
  · exact Model.ensures_makeRepeatedGroup hev hd hz h hn
  · exact c.ensures_traced_pure _ _ (by simp [hd, hz, h, hn])
  · exact .bind (ensures_shown _) fun _ _ => .throw trivial

lemma ensures_withContentInsets (h : v.Lawful kept) (hx : x.Lawful kept) :
    (c.withContentInsets v x).Ensures kept ev Any (Value.Lawful kept) := by
  unfold withContentInsets
  split
  · exact Model.ensures_configured hev h hx (by decide)
  · exact Descriptor.ensures_extended h _ (Descriptor.ensures_insets hev hx)
  · exact c.ensures_traced_pure _ _ (by simp [h, hx])

lemma ensures_withEdgeSpacing (h : v.Lawful kept) (hx : x.Lawful kept) :
    (c.withEdgeSpacing v x).Ensures kept ev Any (Value.Lawful kept) := by
  unfold withEdgeSpacing
  split
  · exact Model.ensures_configured hev h hx (by decide)
  · exact Descriptor.ensures_extended h _ (Descriptor.ensures_edges hev hx)
  · exact c.ensures_traced_pure _ _ (by simp [h, hx])

lemma ensures_withInterItemSpacing (h : v.Lawful kept) (hx : x.Lawful kept) :
    (c.withInterItemSpacing v x).Ensures kept ev Any (Value.Lawful kept) := by
  unfold withInterItemSpacing
  split
  · exact Model.ensures_configured hev h hx (by decide)
  · exact Descriptor.ensures_extended h _ (Descriptor.ensures_spacing hev hx)
  · exact c.ensures_traced_pure _ _ (by simp [h, hx])

lemma ensures_makeSection {g i : Value} (hg : g.Lawful kept) (hi : i.Lawful kept)
    (h : v.Lawful kept) :
    (c.makeSection g i v).Ensures kept ev Any (Value.Lawful kept) := by
  unfold makeSection
  split
  · exact Model.ensures_makeSection hev hg hi h
  · exact Descriptor.ensures_makeSection hev hg hi h
  · exact c.ensures_traced_pure _ _ (by simp [hg, hi, h])

lemma ensures_makeLayout (h : v.Lawful kept) :
    (c.makeLayout v).Ensures kept ev Any (Value.Lawful kept) := by
  unfold makeLayout
  split
  · exact Model.ensures_makeLayout hev h
  · exact Descriptor.ensures_makeLayout hev h
  · refine c.ensures_traced _ _ (.bind (ensures_elements hev h) fun xs hxs => .pure ?_)
    simpa [Value.lawful_list] using hxs

/-- Whatever the operation, its operands are among the arguments. -/
lemma ensures_operate (operation : String) (h : a.Lawful kept) :
    (c.operate operation a).Ensures kept ev Any (Value.Lawful kept) := by
  have hrequired : ∀ i name, (a.required i name).Ensures kept ev Any (Value.Lawful kept) :=
    h.ensures_required trivial
  unfold operate
  split
  · exact .bind (hrequired _ _) fun _ => c.ensures_makeItem hev
  · exact .bind (hrequired _ _) fun _ hd => .bind (hrequired _ _) fun _ hz =>
      .bind (hrequired _ _) fun _ => c.ensures_makeGroup hev hd hz
  · exact .bind (hrequired _ _) fun _ hd => .bind (hrequired _ _) fun _ hz =>
      .bind (hrequired _ _) fun _ hi => .bind (hrequired _ _) fun _ =>
        c.ensures_makeRepeatedGroup hev hd hz hi
  · exact .bind (hrequired _ _) fun _ ho => .bind (hrequired _ _) fun _ =>
      c.ensures_withContentInsets hev ho
  · exact .bind (hrequired _ _) fun _ ho => .bind (hrequired _ _) fun _ =>
      c.ensures_withEdgeSpacing hev ho
  · exact .bind (hrequired _ _) fun _ ho => .bind (hrequired _ _) fun _ =>
      c.ensures_withInterItemSpacing hev ho
  · exact .bind (hrequired _ _) fun _ hg => c.ensures_makeSection hev hg h.orNull h.orNull
  · exact .bind (hrequired _ _) fun _ => c.ensures_makeLayout hev
  · exact .throw trivial

end EngineClass

namespace Run

lemma ensures_operate {engine : Value} {operation : String} {operands : Run Arguments}
    (he : engine.Lawful kept) (hn : (operation : Text) ∉ Expr.unvalidating)
    (ho : operands.Ensures kept ev Any (Arguments.Lawful kept)) :
    (operate engine operation operands).Ensures kept ev Any (Value.Lawful kept) := by
  refine .bind (ensures_field hev he hn) fun f hf => .bind ho fun a ha => ?_
  split
  · exact EngineClass.ensures_operate hev _ _ ha
  · exact ensures_call hev hf ha

end Run

end LayoutTree
