import LayoutTree.Proofs.Lawful.Compose
import LayoutTree.Script.Method

/-!
The methods of layout values, builders, composers and engines: called with lawful arguments they
give lawful values, but for those that make nodes without validation.
-/

namespace LayoutTree

variable {kept : Prop}

open Run Fault

variable {ev : Evaluator} {F : Fault → Prop} {v w x : Value} {a : Arguments} {id : Nat}

/-! ### Arguments -/

lemma Arguments.Lawful.ensures_single (h : a.Lawful kept) (hf : F .wrongArguments) :
    a.single.Ensures kept ev F (Value.Lawful kept) := by
  unfold Arguments.single
  split
  case h_1 hp _ =>
    refine .pure (h.positional _ ?_)
    rw [hp]
    exact List.mem_cons_self
  case h_2 k v _ hn =>
    refine .pure (h.named (k, v) ?_)
    rw [hn]
    exact List.mem_cons_self
  case h_3 => exact .throw hf

lemma Arguments.ensures_text (a : Arguments) (i : Nat) (name : String) :
    (a.text i name).Ensures kept ev Any fun _ => True := by
  have hrequired : (a.required i name).Ensures kept ev Any fun _ => True := by
    unfold Arguments.required
    split
    · exact .pure trivial
    · exact .throw trivial
  refine .bind hrequired fun v _ => ?_
  split
  · exact .pure trivial
  · exact .throw trivial

/-! ### Methods -/

namespace Run

lemma ensures_dimension (hev : ev.Lawful kept F) (mode : DimensionMode) (h : v.Lawful kept) :
    (dimension mode v).Ensures kept ev F (Value.Lawful kept) :=
  ensures_construct hev _ (.cons (.atom rfl) (.cons h .nil))

lemma ensures_spacing (hev : ev.Lawful kept F) (mode : SpacingMode) (h : v.Lawful kept) :
    (spacing mode v).Ensures kept ev F (Value.Lawful kept) :=
  ensures_construct hev _ (.cons (.atom rfl) (.cons h .nil))

variable (hev : ev.Lawful kept Any)
include hev

lemma ensures_composeBox (kind : BoxKind) (id : Nat) {engine config : Value}
    (he : engine.Lawful kept) (hc : config.Lawful kept) :
    (composeBox kind id engine config).Ensures kept ev Any (Value.Lawful kept) := by
  refine .bind (Composer.ensures_make hev he hc) fun c _ => ?_
  refine .bind (Builder.ensures_node hev kind id) fun node hn => ?_
  cases kind with
  | item =>
    exact .bind (Composer.ensures_composeSlot hev hn) fun _ hvs => .pure (Value.lawful_list.2 hvs)
  | group => exact Composer.ensures_composeGroup hev hn

lemma ensures_boxMethod (kind : BoxKind) (id : Nat) (method : String) (h : a.Lawful kept) :
    (boxMethod kind id method a).Ensures kept ev Any (Value.Lawful kept) := by
  have hrequired : ∀ i name, (a.required i name).Ensures kept ev Any (Value.Lawful kept) :=
    h.ensures_required trivial
  have hself : ∀ u : PUnit, True →
      (pure (.box kind id) : Run Value).Ensures kept ev Any (Value.Lawful kept) :=
    fun _ _ => .pure (.atom rfl)
  unfold boxMethod
  dsimp only
  split
  · exact .bind (hrequired _ _) fun _ hw => .bind (hrequired _ _) fun _ hh =>
      .bind (Builder.ensures_setSize hev hw hh) hself
  · have hedge : ∀ name : String, (a.namedOr name (.float .zero)).Lawful kept := fun _ =>
      h.namedOr (.atom rfl)
    exact .bind (Builder.ensures_setInsets hev h.orNull
      (.cons (hedge _) (.cons (hedge _) (.cons (hedge _) (.cons (hedge _) .nil))))
      (h.namedOr (.atom rfl))) hself
  · exact .bind (hrequired _ _) fun _ he => .bind (Builder.ensures_setEdges hev he) hself
  · exact .bind (hrequired _ _) fun _ hx => .bind (Builder.ensures_setSpace hev hx) hself
  · exact .bind (hrequired _ _) fun _ he => .bind (hrequired _ _) fun _ hx =>
      .bind (Builder.ensures_setEdge hev he hx) hself
  · exact Builder.ensures_build hev id
  · exact ensures_composeBox hev kind id h.orNull h.orNull
  · exact .bind (hrequired _ _) fun _ hw => .bind (hrequired _ _) fun _ hh =>
      .bind (hrequired _ _) fun _ hb => Builder.ensures_newGroup hev hw hh hb _
  · exact .bind (hrequired _ _) fun _ hw => .bind (hrequired _ _) fun _ hh =>
      .bind (hrequired _ _) fun _ hb => Builder.ensures_newGroup hev hw hh hb _
  · refine .bind (hrequired _ _) fun _ hx => ?_
    exact ensures_callMethodOr hev _ (.two (.atom rfl) hx)
      (.bind (Builder.ensures_setEdge hev (.atom rfl) hx) hself)

/-- Of the methods of layout values only those that leave out validation are not lawful. -/
lemma ensures_recordMethod {method : String} (h : v.Lawful kept)
    (hn : (method : Text) ∉ Expr.unvalidating) (ha : a.Lawful kept) :
    (recordMethod v method a).Ensures kept ev Any (Value.Lawful kept) := by
  have hrequired : ∀ i name, (a.required i name).Ensures kept ev Any (Value.Lawful kept) :=
    ha.ensures_required trivial
  have hsingle : a.single.Ensures kept ev Any (Value.Lawful kept) := ha.ensures_single trivial
  have hdimension : ∀ mode,
      (do dimension mode (← a.single)).Ensures kept ev Any (Value.Lawful kept) :=
    fun mode => .bind hsingle fun _ => ensures_dimension hev mode
  have hspacing : ∀ mode,
      (do spacing mode (← a.single)).Ensures kept ev Any (Value.Lawful kept) :=
    fun mode => .bind hsingle fun _ => ensures_spacing hev mode
  unfold recordMethod
  split
  · exact hdimension _
  · exact hdimension _
  · exact hdimension _
  · exact hdimension _
  · exact hspacing _
  · exact hspacing _
  · exact .bind hsingle fun _ => Builder.ensures_uniformInsets hev
  · exact absurd (by decide) hn
  · exact absurd (by decide) hn
  · exact absurd (by decide) hn
  · exact .bind (hrequired _ _) fun edge _ => .bind (hrequired _ _) fun _ =>
      Builder.ensures_withEdge edge h
  · exact absurd (by decide) hn
  · exact .throw trivial

lemma ensures_composerMethod (id : Nat) (method : String) (h : a.Lawful kept) :
    (composerMethod id method a).Ensures kept ev Any (Value.Lawful kept) := by
  have hrequired : ∀ i name, (a.required i name).Ensures kept ev Any (Value.Lawful kept) :=
    h.ensures_required trivial
  unfold composerMethod
  split
  · exact .bind (hrequired _ _) fun _ => Composer.ensures_compose hev
  · exact .bind (hrequired _ _) fun _ hs => .bind (Composer.ensures_composeSlot hev hs)
      fun _ hvs => .pure (Value.lawful_list.2 hvs)
  · exact .bind (hrequired _ _) fun _ => Composer.ensures_composeGroup hev
  · exact .bind (hrequired _ _) fun _ ho => .bind (hrequired _ _) fun _ =>
      Composer.ensures_applyConfig hev ho
  · exact .bind (ensures_composer hev.wrongArguments id) fun _ hc =>
      Composer.ensures_resolveRepeats hev hc.engine hc.config
  · exact .throw trivial

lemma ensures_boundMethod {method : String} (h : v.Lawful kept)
    (hn : (method : Text) ∉ Expr.unvalidating) (ha : a.Lawful kept) :
    (boundMethod v method a).Ensures kept ev Any (Value.Lawful kept) := by
  unfold boundMethod
  split
  · exact ensures_boxMethod hev _ _ _ ha
  · exact ensures_composerMethod hev _ _ ha
  · exact EngineClass.ensures_operate hev _ _ ha
  · exact Composer.ensures_configFromSettings
  · exact ensures_recordMethod hev h hn ha

lemma ensures_callValue (h : v.Lawful kept) (ha : a.Lawful kept) :
    (callValue v a).Ensures kept ev Any (Value.Lawful kept) := by
  unfold callValue
  split
  · obtain ⟨hn, hv⟩ := Value.lawful_method.1 h
    exact ensures_boundMethod hev hv hn ha
  · exact ensures_call hev h ha

end Run

end LayoutTree
