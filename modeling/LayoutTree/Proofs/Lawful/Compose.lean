import LayoutTree.Proofs.Lawful.Host

/-!
Engines by name, composers, sections and layouts in lawful sessions.
-/

namespace LayoutTree

variable {kept : Prop}

open Run Fault

/-! ### Registries -/

namespace Registry.Lawful

variable {r : Registry}

lemma register (h : r.Lawful kept) {c : EngineClass} (hc : c.label.Lawful kept) :
    (r.register c).Lawful kept := by
  suffices ∀ es : List (Value × EngineClass), (∀ e ∈ es, e.1.Lawful kept ∧ e.2.label.Lawful kept) →
      ∀ e ∈ Registry.put c es, e.1.Lawful kept ∧ e.2.label.Lawful kept from this _ h
  intro es hes
  induction es with
  | nil => exact List.forall_mem_singleton.2 ⟨hc, hc⟩
  | cons e es ih =>
    obtain ⟨he, hes⟩ := List.forall_mem_cons.1 hes
    rw [Registry.put]
    split
    · exact List.forall_mem_cons.2 ⟨⟨he.1, hc⟩, hes⟩
    · exact List.forall_mem_cons.2 ⟨he, ih hes⟩

lemma loadModel (h : r.Lawful kept) : r.loadModel.Lawful kept := by
  unfold Registry.loadModel
  split
  · exact h
  · exact h.register (.atom rfl)

lemma loadDescriptor (h : r.Lawful kept) : r.loadDescriptor.Lawful kept := by
  unfold Registry.loadDescriptor
  split
  · exact h
  · exact h.register (.atom rfl)

lemma loadBundled (h : r.Lawful kept) : r.loadBundled.Lawful kept := h.loadModel.loadDescriptor

lemma lookUp (h : r.Lawful kept) (name : Value) : (r.lookUp name).Lawful kept := by
  unfold Registry.lookUp
  split
  · exact h
  · exact h.loadBundled

lemma find? (h : r.Lawful kept) {name : Value} {c : EngineClass} (hc : r.find? name = some c) :
    c.label.Lawful kept := by
  obtain ⟨e, he, rfl⟩ := Option.map_eq_some_iff.1 hc
  exact (h e (List.mem_of_find?_eq_some he)).2

end Registry.Lawful

variable {ev : Evaluator} {v w x : Value} {vs : List Value} {a : Arguments} {id : Nat}

lemma Run.ensures_engineNamed (v : Value) :
    (engineNamed v).Ensures kept ev Any (Value.Lawful kept) := by
  unfold engineNamed
  split
  · exact .throw trivial
  refine .bind (.modify fun s hs => { hs with registry := hs.registry.lookUp v }) fun _ _ => ?_
  refine .bind .get fun s hs => ?_
  dsimp only
  split
  · exact ensures_newEngine (hs.registry.find? ‹_›)
  · split
    · exact .bind (ensures_shown _) fun _ _ => .throw trivial
    · exact .throw trivial

variable (hev : ev.Lawful kept Any)
include hev

namespace Composer

/-! ### Making composers -/

lemma ensures_resolveRepeats {engine config : Value} (he : engine.Lawful kept)
    (hc : config.Lawful kept) :
    (resolveRepeats engine config).Ensures kept ev Any (Value.Lawful kept) := by
  refine .bind (ensures_field hev hc (by decide)) fun requested hr => ?_
  refine .bind (ensures_field hev he (by decide)) fun supported hs => ?_
  split
  · exact .pure hs
  · split
    · refine .bind (ensures_field hev he (by decide)) fun _ _ => ?_
      refine .bind (ensures_shown _) fun _ _ => ?_
      exact .bind (ensures_log hev _ _ _) fun _ _ => .pure (.atom rfl)
    · exact .pure hr

omit hev in
lemma ensures_resolveEngine (h : v.Lawful kept) :
    (resolveEngine v).Ensures kept ev Any (Value.Lawful kept) := by
  have hnamed : ∀ e : Value, e.Lawful kept → (if e.text?.isSome then engineNamed e else pure e :
      Run Value).Ensures kept ev Any (Value.Lawful kept) := fun e he => by
    split
    · exact ensures_engineNamed e
    · exact .pure he
  unfold resolveEngine
  dsimp only
  split
  · exact .bind (.map (ensures_setting _) fun t _ => Value.Lawful.ofSetting t) hnamed
  · exact hnamed v h

omit hev in
lemma ensures_configFromSettings : configFromSettings.Ensures kept ev Any (Value.Lawful kept) :=
  .bind (ensures_setting _) fun _ _ => .pure (Value.lawful_config.2 (.ofSetting _))

lemma ensures_make {engine config : Value} (he : engine.Lawful kept) (hc : config.Lawful kept) :
    (make engine config).Ensures kept ev Any fun _ => True := by
  refine .bind (ensures_resolveEngine he) fun e he => ?_
  have hcomposer : ∀ c : Value, c.Lawful kept → (do newComposer ⟨e, c, ← resolveRepeats e c⟩ :
      Run Nat).Ensures kept ev Any fun _ => True := fun c hc =>
    .bind (ensures_resolveRepeats hev he hc) fun _ hr => ensures_newComposer ⟨he, hc, hr⟩
  dsimp only
  split
  · exact .bind ensures_configFromSettings hcomposer
  · exact hcomposer config hc

/-! ### Slots -/

lemma ensures_operate {operation : String} {operands : Run (List Value)}
    (hn : (operation : Text) ∉ Expr.unvalidating)
    (ho : operands.Ensures kept ev Any fun vs => ∀ v ∈ vs, v.Lawful kept) :
    (operate id operation operands).Ensures kept ev Any (Value.Lawful kept) :=
  .bind (ensures_composer hev.wrongArguments id) fun _ hc => Run.ensures_operate hev hc.engine hn
    (.bind ho fun _ hvs => .pure ⟨hvs, .nil⟩)

/-- Operations on one field of a node and an object. -/
lemma ensures_operateWith {operation name : String} {node obj : Value}
    (hn : (operation : Text) ∉ Expr.unvalidating) (hf : (name : Text) ∉ Expr.unvalidating)
    (h : node.Lawful kept) (ho : obj.Lawful kept) :
    (operate id operation do return [obj, ← field node name]).Ensures kept ev Any
    (Value.Lawful kept) :=
  ensures_operate hev hn (.bind (ensures_field hev h hf) fun _ hx => .pure (by simp [ho, hx]))

lemma ensures_applyConfig {obj node : Value} (ho : obj.Lawful kept) (h : node.Lawful kept) :
    (applyConfig id obj node).Ensures kept ev Any (Value.Lawful kept) := by
  have hedges : ∀ obj : Value, obj.Lawful kept → (do
      let edges ← field node "edge_spacing"
      if edges.isNull then pure obj
      else operate id "with_edge_spacing" do return [obj, ← field node "edge_spacing"] :
        Run Value).Ensures kept ev Any (Value.Lawful kept) := fun obj ho => by
    refine .bind (ensures_field hev h (by decide)) fun edges _ => ?_
    split
    · exact .pure ho
    · exact ensures_operateWith hev (by decide) (by decide) h ho
  refine .bind (ensures_field hev h (by decide)) fun insets _ => ?_
  dsimp only
  split
  · exact hedges obj ho
  · exact .bind (ensures_operateWith hev (by decide) (by decide) h ho) hedges

lemma ensures_configure {obj node : Value} (ho : obj.Lawful kept) (h : node.Lawful kept) :
    (configure id obj node).Ensures kept ev Any (Value.Lawful kept) :=
  ensures_callMethodOr hev _ (.two ho h) (ensures_applyConfig hev ho h)

lemma ensures_composeSlot (h : v.Lawful kept) :
    (composeSlot id v).Ensures kept ev Any fun vs => ∀ v ∈ vs, v.Lawful kept := by
  have hitem : (operate id "make_item" do return [← field v "size"]).Ensures kept ev Any
      (Value.Lawful kept) :=
    ensures_operate hev (by decide) (.bind (ensures_field hev h (by decide)) fun _ hx =>
      .pure (by simpa using hx))
  refine .bind hitem fun item hi => ?_
  refine .bind (ensures_configure hev hi h) fun item hi => ?_
  refine .bind (ensures_field hev h (by decide)) fun n _ => ?_
  exact .lift (fun _ hvs => hi.copies hvs) fun _ _ => trivial

/-! ### Groups -/

lemma ensures_directionShown (h : v.Lawful kept) :
    (directionShown v).Ensures kept ev Any fun _ => True :=
  .bind (ensures_field hev h (by decide)) fun _ hd =>
    .bind (ensures_field hev hd (by decide)) fun _ _ => ensures_shown _

lemma ensures_requireChildren (h : v.Lawful kept) (children : Value) :
    (requireChildren v children).Ensures kept ev Any fun _ => True := by
  unfold requireChildren
  split
  · exact .bind (ensures_directionShown hev h) fun _ _ => .throw trivial
  · exact .pure trivial

lemma ensures_repeatsItems (h : v.Lawful kept) (subitems : List Value) :
    (repeatsItems id v subitems).Ensures kept ev Any fun _ => True := by
  refine .bind (ensures_composer hev.wrongArguments id) fun c _ => ?_
  split
  · refine .bind (ensures_field hev h (by decide)) fun _ hc => ?_
    exact .bind (ensures_elements hev hc) fun _ _ => .lift (fun _ _ => trivial) fun _ _ => trivial
  · exact .pure trivial

lemma ensures_repeatedGroup (h : v.Lawful kept) {subitems : List Value}
    (hs : ∀ s ∈ subitems, s.Lawful kept) :
    (repeatedGroup id v subitems).Ensures kept ev Any (Value.Lawful kept) := by
  refine .bind (ensures_directionShown hev h) fun _ _ => ?_
  refine .bind (ensures_log hev _ _ _) fun _ _ => ensures_operate hev (by decide) ?_
  refine .bind (ensures_field hev h (by decide)) fun d hd => ?_
  refine .bind (ensures_field hev h (by decide)) fun z hz => .pure ?_
  have hhead : (subitems.headD .null).Lawful kept := by
    cases subitems with
    | nil => exact .atom rfl
    | cons x xs => exact hs x List.mem_cons_self
  have hcount : (Value.int subitems.length).Lawful kept := .atom rfl
  simp only [List.mem_cons, List.not_mem_nil, or_false, forall_eq_or_imp, forall_eq]
  exact ⟨hd, hz, hhead, hcount⟩

lemma ensures_listedGroup (h : v.Lawful kept) {subitems : List Value}
    (hs : ∀ s ∈ subitems, s.Lawful kept) :
    (listedGroup id v subitems).Ensures kept ev Any (Value.Lawful kept) := by
  refine ensures_operate hev (by decide) ?_
  refine .bind (ensures_field hev h (by decide)) fun d hd => ?_
  refine .bind (ensures_field hev h (by decide)) fun z hz => .pure ?_
  simpa [hd, hz, Value.lawful_list] using hs

lemma ensures_assemble (h : v.Lawful kept) {subitems : List Value}
    (hs : ∀ s ∈ subitems, s.Lawful kept) :
    (assemble id v subitems).Ensures kept ev Any (Value.Lawful kept) := by
  have hlogged : ∀ obj : Value, obj.Lawful kept → (do
      log "layoutbox.compose" .debug ("Composed " ++ (← directionShown v) ++ " group with "
        ++ toString subitems.length ++ " subitems")
      pure obj : Run Value).Ensures kept ev Any (Value.Lawful kept) := fun obj ho =>
    .bind (ensures_directionShown hev h) fun _ _ => .bind (ensures_log hev _ _ _) fun _ _ =>
      .pure ho
  have hspaced : ∀ obj : Value, obj.Lawful kept → (do
      let obj ← configure id obj v
      let spacing ← field v "inter_item_spacing"
      let obj ← if spacing.isNull then pure obj
        else operate id "with_inter_item_spacing" do return [obj, ← field v "inter_item_spacing"]
      log "layoutbox.compose" .debug ("Composed " ++ (← directionShown v) ++ " group with "
        ++ toString subitems.length ++ " subitems")
      pure obj : Run Value).Ensures kept ev Any (Value.Lawful kept) := fun obj ho => by
    refine .bind (ensures_configure hev ho h) fun obj ho => ?_
    refine .bind (ensures_field hev h (by decide)) fun spacing _ => ?_
    dsimp only
    split
    · exact hlogged obj ho
    · exact .bind (ensures_operateWith hev (by decide) (by decide) h ho) hlogged
  refine .bind (ensures_repeatsItems hev h subitems) fun b _ => ?_
  dsimp only
  split
  · exact .bind (ensures_repeatedGroup hev h hs) hspaced
  · exact .bind (ensures_listedGroup hev h hs) hspaced

lemma ensures_slotSubitems (h : v.Lawful kept) :
    (slotSubitems id v).Ensures kept ev Any fun vs => ∀ v ∈ vs, v.Lawful kept := by
  refine .bind (ensures_attached? _ _) fun o ho => ?_
  rcases o with _ | f
  · exact ensures_composeSlot hev h
  · exact .bind (ensures_call hev (ho f rfl) (.one h)) fun _ => ensures_elements hev

omit hev in
/-- Rows of lawful values one after the other. -/
lemma forall_flatten {vss : List (List Value)} (h : ∀ vs ∈ vss, ∀ v ∈ vs, v.Lawful kept) :
    ∀ v ∈ vss.flatten, v.Lawful kept := fun v hv => by
  obtain ⟨vs, hvs, hv⟩ := List.mem_flatten.1 hv
  exact h vs hvs v hv

omit hev in
/-- What is put at the end of a list is what it was. -/
lemma ensures_extending (held : Nat) {vs : List Value} (h : ∀ v ∈ vs, v.Lawful kept) :
    (liftM (extending held vs) : Run (List Value)).Ensures kept ev Any
      fun vs => ∀ v ∈ vs, v.Lawful kept := by
  refine .lift (fun ws hws => ?_) fun _ _ => trivial
  unfold extending at hws
  split at hws <;> cases hws
  exact h

omit hev in
mutual

/-- By induction on the node. -/
lemma ensures_childSubitems (hev : ev.Lawful kept Any) {deep : Value → Run (List Value)}
    (hd : ∀ v : Value, v.Lawful kept →
      (deep v).Ensures kept ev Any fun vs => ∀ v ∈ vs, v.Lawful kept)
    (v : Value) (h : v.Lawful kept) :
    (childSubitems id deep v).Ensures kept ev Any fun vs => ∀ v ∈ vs, v.Lawful kept := by
  cases v with
  | slot => exact ensures_slotSubitems hev h
  | group i k s n e d g cs =>
    have hgroup : (do
        requireChildren (.group i k s n e d g cs) cs
        assemble id (.group i k s n e d g cs) (← groupSubitems id deep cs) : Run Value).Ensures kept
          ev Any (Value.Lawful kept) :=
      .bind (ensures_requireChildren hev h cs) fun _ _ =>
        .bind (ensures_groupSubitems hev hd cs (Value.lawful_group.1 h).2.2.2.2.2.2.2) fun _ =>
          ensures_assemble hev h
    exact .bind (ensures_callMethodOr hev _ (.one h) hgroup) fun x hx =>
      .pure (List.forall_mem_singleton.2 hx)
  | _ => exact .throw trivial

lemma ensures_groupSubitems (hev : ev.Lawful kept Any) {deep : Value → Run (List Value)}
    (hd : ∀ v : Value, v.Lawful kept →
      (deep v).Ensures kept ev Any fun vs => ∀ v ∈ vs, v.Lawful kept)
    (v : Value) (h : v.Lawful kept) :
    (groupSubitems id deep v).Ensures kept ev Any fun vs => ∀ v ∈ vs, v.Lawful kept := by
  cases v with
  | list xs => exact ensures_allSubitems hev hd 0 xs (Value.lawful_list.1 h)
  | tuple xs => exact ensures_allSubitems hev hd 0 xs (Value.lawful_tuple.1 h)
  | _ =>
    exact .bind (ensures_forElements hev hd h) fun _ hvss =>
      ensures_extending 0 (forall_flatten hvss)

lemma ensures_allSubitems (hev : ev.Lawful kept Any) {deep : Value → Run (List Value)}
    (hd : ∀ v : Value, v.Lawful kept →
      (deep v).Ensures kept ev Any fun vs => ∀ v ∈ vs, v.Lawful kept)
    (held : Nat) (vs : List Value) (h : ∀ v ∈ vs, v.Lawful kept) :
    (allSubitems id deep held vs).Ensures kept ev Any fun vs => ∀ v ∈ vs, v.Lawful kept := by
  cases vs with
  | nil => exact .pure fun v hv => absurd hv List.not_mem_nil
  | cons v vs =>
    obtain ⟨hv, hvs⟩ := List.forall_mem_cons.1 h
    exact .bind (ensures_childSubitems hev hd v hv) fun xs hxs =>
      .bind (ensures_extending held hxs) fun ys hys =>
        .bind (ensures_allSubitems hev hd _ vs hvs) fun zs hzs =>
          .pure (List.forall_mem_append.2 ⟨hys, hzs⟩)

end

lemma ensures_childSubitemsWithin (n : Nat) (h : v.Lawful kept) :
    (childSubitemsWithin id n v).Ensures kept ev Any fun vs => ∀ v ∈ vs, v.Lawful kept := by
  induction n generalizing v with
  | zero => exact .throw trivial
  | succ n ih => exact ensures_childSubitems hev (fun v => ih) v h

lemma ensures_composeGroup (h : v.Lawful kept) :
    (composeGroup id v).Ensures kept ev Any (Value.Lawful kept) := by
  refine .bind .read fun _ _ => ?_
  refine .bind (ensures_field hev h (by decide)) fun cs _ => ?_
  refine .bind (ensures_requireChildren hev h cs) fun _ _ => ?_
  refine .bind (ensures_field hev h (by decide)) fun cs hcs => ?_
  exact .bind (ensures_groupSubitems hev (fun v => ensures_childSubitemsWithin hev _) cs hcs)
    fun _ => ensures_assemble hev h

lemma ensures_compose (h : v.Lawful kept) :
    (compose id v).Ensures kept ev Any (Value.Lawful kept) := by
  unfold compose
  split
  · exact ensures_callMethodOr hev _ (.one h)
      (.bind (ensures_composeSlot hev h) fun _ hvs => .pure (Value.lawful_list.2 hvs))
  · exact ensures_callMethodOr hev _ (.one h) (ensures_composeGroup hev h)
  · exact .throw trivial
  · exact .throw trivial

end Composer

/-! ### Sections and layouts -/

namespace Layout

variable {engine config : Value}

lemma ensures_makeSection {i x : Value} (h : v.Lawful kept) (he : engine.Lawful kept)
    (hc : config.Lawful kept) (hi : i.Lawful kept) (hx : x.Lawful kept) :
    (makeSection v engine config i x).Ensures kept ev Any (Value.Lawful kept) := by
  have hnode : (groupNode v).Ensures kept ev Any (Value.Lawful kept) := by
    unfold groupNode
    split
    · exact Builder.ensures_node hev _ _
    · exact .pure h
  refine .bind (Composer.ensures_make hev he hc) fun c _ => ?_
  refine .bind hnode fun node hn => ?_
  refine .bind (ensures_composer hev.wrongArguments c) fun c hc => ?_
  refine ensures_operate hev hc.engine (by decide) ?_
  refine .bind (Composer.ensures_composeGroup hev hn) fun g hg => .pure ⟨?_, ?_⟩
  · simpa using hg
  · exact .cons hi (.cons hx .nil)

lemma ensures_resolveSections (c : Nat) (h : ∀ v ∈ vs, v.Lawful kept) :
    (resolveSections c vs).Ensures kept ev Any fun ws => ∀ w ∈ ws, w.Lawful kept := by
  induction vs with
  | nil => exact .pure fun v hv => absurd hv List.not_mem_nil
  | cons v vs ih =>
    obtain ⟨hv, hvs⟩ := List.forall_mem_cons.1 h
    have hrest : ∀ s : Value, s.Lawful kept → (do return s :: (← resolveSections c vs) :
        Run (List Value)).Ensures kept ev Any fun ws => ∀ w ∈ ws, w.Lawful kept := fun s hs =>
      .bind (ih hvs) fun _ hws => .pure (List.forall_mem_cons.2 ⟨hs, hws⟩)
    rw [resolveSections]
    dsimp only
    split
    · refine .bind (ensures_composer hev.wrongArguments c) fun c hc => ?_
      exact .bind (ensures_makeSection hev hv hc.engine hc.config (.atom rfl) (.atom rfl)) hrest
    · exact hrest v hv

lemma ensures_make (h : ∀ v ∈ vs, v.Lawful kept) (he : engine.Lawful kept)
    (hc : config.Lawful kept) :
    (make vs engine config).Ensures kept ev Any (Value.Lawful kept) := by
  unfold make
  split
  · exact .throw trivial
  refine .bind (Composer.ensures_make hev he hc) fun c _ => ?_
  refine .bind (ensures_resolveSections hev c h) fun ws hws => ?_
  refine .bind (ensures_composer hev.wrongArguments c) fun c hc => ?_
  refine ensures_operate hev hc.engine (by decide) (.pure ⟨?_, .nil⟩)
  simpa [Value.lawful_list] using hws

end Layout

/-! ### Configuring builders -/

namespace Builder

lemma ensures_setSize {width height : Value} (hw : width.Lawful kept) (hh : height.Lawful kept) :
    (setSize id width height).Ensures kept ev Any fun _ => True :=
  .bind (ensures_size hev hw hh) fun _ hs => .bind (ensures_box hev.wrongArguments id) fun _ hb =>
    ensures_setBox { hb with size := hs }

lemma ensures_setInsets {i : InsetsArgument} (hi : i.insets.Lawful kept) (he : i.edges.Lawful kept)
    (hs : i.space.Lawful kept) : (setInsets id i).Ensures kept ev Any fun _ => True := by
  have hread : i.read.Ensures kept ev Any (Value.Lawful kept) := by
    unfold InsetsArgument.read
    split
    · exact ensures_uniformInsets hev hs
    · split
      · exact .pure (.atom rfl)
      · exact ensures_construct hev _ he
      · exact ensures_uniformInsets hev hi
  exact .bind hread fun _ hr => .bind (ensures_box hev.wrongArguments id) fun _ hb =>
    ensures_setBox { hb with insets := hr }

lemma ensures_setEdges (h : v.Lawful kept) : (setEdges id v).Ensures kept ev Any fun _ => True :=
  .bind (ensures_box hev.wrongArguments id) fun _ hb => ensures_setBox { hb with edges := h }

omit hev in
lemma ensures_withEdge (edge : Value) (h : v.Lawful kept) (hx : x.Lawful kept) :
    (withEdge v edge x).Ensures kept ev Any (Value.Lawful kept) := by
  unfold withEdge
  split
  · exact .throw trivial
  · split
    case h_1 e _ => exact Model.ensures_copyWith h hx (by cases e <;> decide)
    · exact .bind (ensures_shown _) fun _ _ => .throw trivial

lemma ensures_replacedEdge {edge : Value} (h : v.Lawful kept) (he : edge.Lawful kept)
    (hx : x.Lawful kept) :
    (replacedEdge v edge x).Ensures kept ev Any (Value.Lawful kept) := by
  have hfield : ∀ v : Value, v.Lawful kept →
      (field v "with_edge").Ensures kept ev Any (Value.Lawful kept) :=
    fun v h => ensures_field hev h (by decide)
  unfold replacedEdge
  dsimp only
  split
  · refine .bind (.pure h) fun w hw => .bind (hfield w hw) fun f hf => ?_
    split
    · exact ensures_withEdge edge (Value.lawful_method.1 hf).2 hx
    · exact ensures_call hev hf (.two he hx)
  · refine .bind (ensures_construct hev _ .nil) fun w hw => .bind (hfield w hw) fun f hf => ?_
    split
    · exact ensures_withEdge edge (Value.lawful_method.1 hf).2 hx
    · exact ensures_call hev hf (.two he hx)

lemma ensures_setEdge {edge : Value} (he : edge.Lawful kept) (hx : x.Lawful kept) :
    (setEdge id edge x).Ensures kept ev Any fun _ => True :=
  .bind (ensures_box hev.wrongArguments id) fun _ hb =>
    .bind (ensures_replacedEdge hev hb.edges he hx) fun _ hr =>
    .bind (ensures_box hev.wrongArguments id) fun _ hb => ensures_setBox { hb with edges := hr }

lemma ensures_setSpace (h : v.Lawful kept) : (setSpace id v).Ensures kept ev Any fun _ => True := by
  refine .bind (ensures_box hev.wrongArguments id) fun b hb => ?_
  obtain ⟨hs, hi, he, hc⟩ := hb
  split
  case h_1 hcontent =>
    rw [hcontent] at hc
    exact ensures_setBox ⟨hs, hi, he, And.intro hc.1 ⟨h, hc.2.2⟩⟩
  case h_2 => exact .throw trivial

end Builder

end LayoutTree
