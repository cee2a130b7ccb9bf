import LayoutTree.Proofs.Lawful.Method
import LayoutTree.Script.Eval

/-!
The functions of scripts: called with lawful arguments they give lawful values, but for those that
make nodes without validation. Those that make layout values, nodes and builders also fail only for
reasons that an evaluator gives.
-/

namespace LayoutTree

variable {kept : Prop}

open Run Fault

variable {ev : Evaluator} {F : Fault → Prop} {v x : Value} {a : Arguments}

namespace Function

/-- Called with lawful arguments, the function gives lawful values. -/
def Lawful (f : Function) (kept : Prop) (ev : Evaluator) (F : Fault → Prop) : Prop :=
  ∀ a : Arguments, a.Lawful kept → (f a).Ensures kept ev F (Value.Lawful kept)

section Layout

variable (hev : ev.Lawful kept F)
include hev

lemma lawful_single {g : Value → Run Value}
    (h : ∀ v : Value, v.Lawful kept → (g v).Ensures kept ev F (Value.Lawful kept)) :
    Lawful (fun a => do g (← a.single)) kept ev F := fun _ ha =>
  .bind (ha.ensures_single (hev.refuses _ rfl)) h

lemma lawful_memberOf (type : String) {ofText? : Text → Option Value}
    (h : ∀ t m, ofText? t = some m → m.Lawful kept) : Lawful (memberOf type ofText?) kept ev F := by
  refine lawful_single hev fun v _ => ?_
  split
  case h_1 m hm =>
    obtain ⟨t, -, ht⟩ := Option.bind_eq_some_iff.1 hm
    exact .pure (h t m ht)
  case h_2 => exact .bind (ensures_written v) fun _ _ => .throw (hev.refuses _ rfl)

lemma lawful_groupBox (direction : Value) : Lawful (groupBox direction) kept ev F := fun _ ha =>
  have hrequired := ha.ensures_required (hev.wrongArguments)
  .bind (hrequired _ _) fun _ hw => .bind (hrequired _ _) fun _ hh =>
    .bind (hrequired _ _) fun _ hb => Builder.ensures_newGroup hev hw hh hb direction

lemma lawful_sizes : ∀ p ∈ sizes, Lawful p.2 kept ev F := by
  have hdimension : ∀ mode, Lawful (dimension mode) kept ev F := fun mode =>
    lawful_single hev fun _ => ensures_dimension hev mode
  have hspacing : ∀ mode, Lawful (spacing mode) kept ev F := fun mode =>
    lawful_single hev fun _ => ensures_spacing hev mode
  simp only [sizes, List.forall_mem_cons, List.not_mem_nil, false_implies, implies_true, and_true]
  exact ⟨hdimension _, hdimension _, hdimension _, hdimension _, hdimension _, hdimension _,
    hspacing _, hspacing _, hdimension _, hdimension _, hdimension _, hdimension _, hspacing _,
    hspacing _, lawful_single hev fun _ => Builder.ensures_uniformInsets hev⟩

lemma lawful_choices : ∀ p ∈ choices, Lawful p.2 kept ev F := by
  have hmember : ∀ (type : String) {α : Type} (read : Text → Option α) (f : α → Value),
      (∀ m, (f m).isAtom = true) → Lawful (memberOf type fun t => f <$> read t) kept ev F :=
    fun type α read f hf => lawful_memberOf hev type fun t m hm => by
      obtain ⟨k, -, rfl⟩ := Option.map_eq_some_iff.1 hm
      exact .atom (hf k)
  simp only [choices, List.forall_mem_cons, List.not_mem_nil, false_implies, implies_true,
    and_true]
  exact ⟨hmember _ _ _ fun _ => rfl, hmember _ _ _ fun _ => rfl, hmember _ _ _ fun _ => rfl⟩

lemma lawful_models : ∀ p ∈ models, p.1 ∉ Expr.unvalidated → Lawful p.2 kept ev F := by
  intro p hp hn
  rcases List.mem_append.1 hp with hp | hp
  · obtain ⟨type, -, rfl⟩ := List.mem_map.1 hp
    exact fun a ha => ensures_construct hev type ha.named
  · simp only [List.mem_cons, List.not_mem_nil, or_false] at hp
    rcases hp with rfl | rfl | rfl <;> simp [Expr.unvalidated] at hn

lemma lawful_blocks : ∀ p ∈ blocks, Lawful p.2 kept ev F := by
  have hflatten : Lawful (fun a => do return .list (← Node.flatten (← a.single))) kept ev F :=
    lawful_single hev fun _ hv => .bind (Node.ensures_flatten hev hv) fun _ hvs =>
      .pure (Value.lawful_list.2 fun v hv => (hvs v hv).1)
  have hcombine : Lawful combineAll kept ev F := fun _ ha => Block.ensures_combine hev ha.positional
  have hconvert : Lawful convert kept ev F := lawful_single hev fun _ => Block.ensures_component hev
  have hoptional : Lawful convertOptional kept ev F :=
    lawful_single hev fun _ => Block.ensures_optional hev
  have harray : Lawful convertArray kept ev F :=
    lawful_single hev fun _ => Block.ensures_fromArray hev
  have hnode : Lawful (fun a => do Block.node (← a.single)) kept ev F :=
    lawful_single hev fun _ => Block.ensures_node hev
  simp only [blocks, List.forall_mem_cons, List.not_mem_nil, false_implies, implies_true, and_true]
  exact ⟨hflatten, hcombine, hconvert, hconvert, hoptional, harray, hconvert, hnode, hcombine,
    hconvert, hconvert, hoptional, harray, hconvert, hnode⟩

lemma lawful_builders : ∀ p ∈ builders, Lawful p.2 kept ev F := by
  have hitem : Lawful (fun a => do
      Builder.newItem (← a.required 0 "width") (← a.required 1 "height")
        (a.optional 2 "columns" (.int 1))) kept ev F := fun _ ha =>
    have hrequired := ha.ensures_required (hev.wrongArguments)
    .bind (hrequired _ _) fun _ hw => .bind (hrequired _ _) fun _ hh =>
      Builder.ensures_newItem hev hw hh (ha.optional (.atom rfl))
  simp only [builders, List.forall_mem_cons, List.not_mem_nil, false_implies, implies_true,
    and_true]
  exact ⟨hitem, fun a ha => lawful_groupBox hev _ a ha, lawful_groupBox hev _,
    lawful_groupBox hev _⟩

/-- All functions that make layout values, nodes and builders with validation. -/
lemma lawful_layout : ∀ p ∈ layout, p.1 ∉ Expr.unvalidated → Lawful p.2 kept ev F := by
  intro p hp hn
  simp only [layout, List.mem_append] at hp
  rcases hp with (((hp | hp) | hp) | hp) | hp
  · exact lawful_sizes hev p hp
  · exact lawful_choices hev p hp
  · exact lawful_models hev p hp hn
  · exact lawful_blocks hev p hp
  · exact lawful_builders hev p hp

end Layout

section Others

variable (hev : ev.Lawful kept Any)
include hev

/-! ### Engines -/

omit hev in
lemma ensures_traceClass (h : a.Lawful kept) :
    (traceClass a).Ensures kept ev Any fun c => c.label.Lawful kept :=
  .bind (h.ensures_required trivial _ _) fun _ hl => .pure hl

omit hev in
lemma lawful_listEngines : Lawful listEngines kept ev Any := fun _ _ => by
  refine .bind (.modify fun s hs => { hs with registry := hs.registry.loadBundled }) fun _ _ => ?_
  refine .bind .get fun s hs => .pure (Value.lawful_list.2 fun v hv => ?_)
  obtain ⟨e, he, rfl⟩ := List.mem_map.1 hv
  exact (hs.registry e he).1

omit hev in
lemma lawful_registerEngine : Lawful registerEngine kept ev Any := fun a ha => by
  refine .bind (ensures_traceClass ha) fun c hc => ?_
  split
  · exact .throw trivial
  · exact .bind (.modify fun s hs => { hs with registry := hs.registry.register hc }) fun _ _ =>
      .pure (.atom rfl)

lemma lawful_engine : ∀ p ∈ engine, Lawful p.2 kept ev Any := by
  have hcompose : Lawful (fun a => do
      let node ← a.required 0 "node"
      Composer.compose (← Composer.make (a.orNull 1 "engine") (a.orNull 2 "config")) node)
      kept ev Any := fun _ ha =>
    .bind (ha.ensures_required trivial _ _) fun _ hn =>
      .bind (Composer.ensures_make hev ha.orNull ha.orNull) fun _ _ =>
        Composer.ensures_compose hev hn
  have hsection : Lawful (fun a => do
      Layout.makeSection (← a.required 0 "group") (a.orNull 1 "engine") (a.orNull 2 "config")
        (a.namedOr "insets" .null) (a.namedOr "inter_group_spacing" .null))
      kept ev Any := fun _ ha =>
    .bind (ha.ensures_required trivial _ _) fun _ hg =>
      Layout.ensures_makeSection hev hg ha.orNull ha.orNull (ha.namedOr (.atom rfl))
        (ha.namedOr (.atom rfl))
  have hlayout : Lawful (fun a =>
      Layout.make a.positional (a.namedOr "engine" .null) (a.namedOr "config" .null)) kept ev Any :=
    fun _ ha => Layout.ensures_make hev ha.positional (ha.namedOr (.atom rfl))
      (ha.namedOr (.atom rfl))
  have hjson : Lawful (fun a => do
      let descriptor ← a.required 0 "descriptor"
      let indent := a.optional 1 "indent" (.int 2)
      return .text (← (Value.jsonText descriptor indent : Except Fault Text))) kept ev Any :=
    fun _ ha => .bind (ha.ensures_required trivial _ _) fun _ _ =>
      .bind (.lift (fun _ _ => trivial) fun _ _ => trivial) fun _ _ => .pure (.atom rfl)
  simp only [engine, engines, composers, sections, List.forall_mem_append, List.forall_mem_cons,
    List.not_mem_nil, false_implies, implies_true, and_true]
  refine ⟨⟨⟨?_, lawful_listEngines, lawful_registerEngine, ?_, ?_, ?_⟩, ?_, ?_, ?_, hcompose⟩,
    hsection, hlayout, hjson⟩
  · -- an engine under a name
    exact lawful_single hev fun v _ => ensures_engineNamed v
  · -- an engine that traces
    exact fun _ ha => .bind (ensures_traceClass ha) fun _ => ensures_newEngine
  · -- the bundled engines
    exact fun _ _ => ensures_newEngine (.atom rfl)
  · exact fun _ _ => ensures_newEngine (.atom rfl)
  · -- a composer
    exact fun _ ha => .bind (Composer.ensures_make hev ha.orNull ha.orNull) fun _ _ =>
      .pure (.atom rfl)
  · -- a configuration
    exact fun _ ha => .pure (Value.lawful_config.2 ha.orNull)
  · exact fun _ _ => Composer.ensures_configFromSettings

/-! ### Settings and logging -/

omit hev in
lemma ensures_variableText (v : Value) : (variableText v).Ensures kept ev Any fun _ => True := by
  unfold variableText
  split
  · exact .throw trivial
  · split
    · exact .throw trivial
    · exact .pure trivial

lemma ensures_lowered (h : v.Lawful kept) :
    (lowered v).Ensures kept ev Any (Value.Lawful kept) := by
  unfold lowered
  split
  · exact .pure (.atom rfl)
  · exact .throw trivial
  · split
    · exact .pure (.atom rfl)
    · exact .bind (ensures_field hev h (by decide)) fun _ hf => ensures_callValue hev hf .none

lemma ensures_flagOf (h : v.Lawful kept) : (flagOf v).Ensures kept ev Any fun _ => True := by
  unfold flagOf
  split
  · exact .pure trivial
  · split
    · exact .pure trivial
    · refine .bind (ensures_field hev h (by decide)) fun _ hf => ?_
      refine .bind (ensures_callValue hev hf .none) fun _ _ => ?_
      split <;> exact .pure trivial

lemma ensures_parseFlag (h : v.Lawful kept) : (parseFlag v).Ensures kept ev Any fun _ => True :=
  .bind (ensures_lowered hev h) fun _ => ensures_flagOf hev

lemma ensures_converted {default : Value} (type : Value) (h : v.Lawful kept)
    (hd : default.Lawful kept) :
    (converted v type default).Ensures kept ev Any (Value.Lawful kept) := by
  unfold converted
  split
  · exact .pure hd
  · split
    · refine .bind (ensures_parseFlag hev h) fun b _ => .pure ?_
      cases b
      · exact hd
      · exact .atom rfl
    · exact .pure h

omit hev in
lemma lawful_setEnvironment : Lawful setEnvironment kept ev Any := fun a ha => by
  refine .bind (ha.ensures_required trivial _ _) fun _ _ => ?_
  refine .bind (ensures_variableText _) fun name _ => ?_
  refine .bind (ha.ensures_required trivial _ _) fun _ _ => ?_
  refine .bind (ensures_variableText _) fun text _ => ?_
  have hrefuse : ∀ e : Fault, (throw e : Run Value).Ensures kept ev Any (Value.Lawful kept) :=
    fun _ => .throw trivial
  dsimp only
  split
  · exact hrefuse _
  · split
    · exact hrefuse _
    · split
      · exact hrefuse _
      · exact .bind (.modify fun s hs => { hs with }) fun _ _ => .pure (.atom rfl)

lemma lawful_settingValue : Lawful settingValue kept ev Any := fun a ha => by
  refine .bind (ha.ensures_required trivial _ _) fun _ he => ?_
  refine .bind (ensures_field hev he (by decide)) fun info hi => ?_
  dsimp only
  split
  · exact .pure ha.orNull
  · refine .bind (ensures_field hev hi (by decide)) fun _ _ => ?_
    refine .bind (ensures_variableText _) fun name _ => .bind .get fun s _ => ?_
    refine .bind (ensures_field hev hi (by decide)) fun type _ => ?_
    refine .bind (ensures_field hev hi (by decide)) fun default hd => ?_
    refine ensures_converted hev type ?_ hd
    cases s.environment.get? name <;> exact .atom rfl

lemma lawful_settings : ∀ p ∈ settings, Lawful p.2 kept ev Any := by
  have hnamed : Lawful settingNamed kept ev Any := lawful_single hev fun v _ => by
    split
    · exact .throw trivial
    · split
      · exact .pure (.atom rfl)
      · exact .bind (ensures_shown _) fun _ _ => .throw trivial
  have hdefault : Lawful defaultEngineName kept ev Any := fun a ha => by
    unfold defaultEngineName
    dsimp only
    split
    · exact .bind (ensures_setting _) fun t _ => .pure (.ofSetting t)
    · exact .pure ha.orNull
  have hlevel : logLevelName.Ensures kept ev Any (Value.Lawful kept) :=
    .bind (ensures_setting _) fun _ _ => .bind (ensures_shown _) fun _ _ => .pure (.atom rfl)
  have hlist : Lawful listSettings kept ev Any := fun a _ =>
    .pure (Value.lawful_list.2 fun v hv => by
      obtain ⟨t, -, rfl⟩ := List.mem_map.1 hv
      exact .atom rfl)
  have hunset : Lawful unsetEnvironment kept ev Any := fun a ha =>
    .bind (ha.ensures_required trivial _ _) fun _ _ => .bind (ensures_variableText _) fun _ _ =>
      .bind (.modify fun s hs => { hs with }) fun _ _ => .pure (.atom rfl)
  have hconvert : Lawful convertValue kept ev Any := fun a ha =>
    .bind (ha.ensures_required trivial _ _) fun _ hv => .bind (a.ensures_text _ _) fun _ _ =>
      ensures_converted hev _ hv ha.orNull
  simp only [settings, List.forall_mem_cons, List.not_mem_nil, false_implies, implies_true,
    and_true]
  refine ⟨hnamed, lawful_settingValue hev, ?_, hlist, hdefault, ?_, fun _ _ => hlevel, ?_,
    hconvert, lawful_setEnvironment, hunset⟩
  · exact fun _ ha => .bind (ha.ensures_required trivial _ _) fun _ he =>
      ensures_field hev he (by decide)
  · exact fun _ _ => .bind (ensures_setting _) fun t _ => .pure (.ofSetting t)
  · refine lawful_single hev fun v hv => .bind (ensures_parseFlag hev hv) fun b _ => .pure ?_
    cases b <;> exact .atom rfl

omit hev in
lemma ensures_loggerOf (h : v.Lawful kept) : (loggerOf v).Ensures kept ev Any fun _ => True := by
  unfold loggerOf
  split
  · exact .pure trivial
  · split
    · exact .throw trivial
    · refine .bind .get fun s _ => ?_
      have hname : ∀ (name : Text) (u : PUnit), True →
          (pure name : Run Text).Ensures kept ev Any fun _ => True := fun _ _ _ => .pure trivial
      dsimp only
      split
      · refine .bind (.modify fun s hs => { hs with }) fun _ _ => ?_
        split
        · exact .bind (ensures_attach _ _ h) (hname _)
        · exact hname _ ⟨⟩ trivial
      · exact hname _ ⟨⟩ trivial

omit hev in
lemma lawful_setupLogging : Lawful setupLogging kept ev Any := fun a ha => by
  have hroot : ∀ u : PUnit, True →
      (return (← get).loggerLevel Logger.root : Run Value).Ensures kept ev Any
        (Value.Lawful kept) :=
    fun _ _ => .bind .get fun s hs => .pure (hs.loggerLevel _)
  have hlevel : ∀ level : Value, level.Lawful kept → (do
      let s ← get
      let outcome := s.logging.configure s.loggerWritten level
      set { s with logging := outcome.2 }
      (outcome.1 : Except Fault Unit)
      if !s.logging.handler then detach (.logger Logger.root) "level"
      return (← get).loggerLevel Logger.root : Run Value).Ensures kept ev Any (Value.Lawful kept) :=
    fun level _ => by
      refine .bind .get fun s hs => ?_
      dsimp only
      refine .bind (.set { hs with }) fun _ _ => ?_
      refine .bind (.lift (P := fun _ => True) (fun _ _ => trivial) fun _ _ => trivial)
        fun _ _ => ?_
      split
      · exact .bind (ensures_detach _ _) hroot
      · exact hroot ⟨⟩ trivial
  unfold setupLogging
  dsimp only
  split
  · -- the level in the settings
    refine .bind ?_ hlevel
    exact .bind (ensures_setting _) fun _ _ => .bind (ensures_shown _) fun _ _ => .pure (.atom rfl)
  · exact hlevel _ ha.orNull

lemma lawful_logMessage : Lawful logMessage kept ev Any := fun a ha => by
  refine .bind (ha.ensures_required trivial _ _) fun _ hn => ?_
  refine .bind (ensures_loggerOf hn) fun logger _ => .bind (a.ensures_text _ _) fun level _ => ?_
  refine .bind (ha.ensures_required trivial _ _) fun message hm => ?_
  split
  · refine ensures_callMethodOr hev _ (.two (.atom rfl) hm) ?_
    exact .bind (ensures_shown _) fun _ _ => .bind (ensures_record hev _ _ _) fun _ _ =>
      .pure (.atom rfl)
  · exact .pure (.atom rfl)

lemma lawful_logging : ∀ p ∈ logging, Lawful p.2 kept ev Any := by
  have hroot : Lawful (fun _ => return (← get).loggerLevel Logger.root) kept ev Any := fun _ _ =>
    .bind .get fun s hs => .pure (hs.loggerLevel _)
  simp only [logging, List.forall_mem_cons, List.not_mem_nil, false_implies, implies_true,
    and_true]
  refine ⟨fun _ ha => ?_, lawful_setupLogging, lawful_logMessage hev, hroot⟩
  exact .bind (ensures_loggerOf ha.orNull) fun _ _ => .pure (.atom rfl)

/-! ### Values in general -/

omit hev in
lemma ensures_hashable (h : v.Lawful kept) :
    (hashable v).Ensures kept ev Any (Value.Lawful kept) := by
  unfold hashable
  split
  · exact .throw trivial
  · exact .pure h

lemma lawful_countDistinct : Lawful countDistinct kept ev Any :=
  lawful_single hev fun v hv => by
    split
    · exact .pure (.atom rfl)
    · exact .bind (ensures_forElements hev (fun _ => ensures_hashable) hv) fun _ _ =>
        .pure (.atom rfl)

lemma lawful_length : Lawful length kept ev Any := lawful_single hev fun v _ => by
  split
  · split
    · exact .pure (.atom rfl)
    · exact .throw trivial
  · split
    · exact .pure (.atom rfl)
    · exact .throw trivial

omit hev in
lemma ensures_indexOf (wrong : String → Fault) (v : Value) :
    (indexOf wrong v).Ensures kept ev Any fun _ => True := by
  unfold indexOf
  split
  · exact .pure trivial
  · exact .pure trivial
  · exact .throw trivial

omit hev in
lemma ensures_elementIn {vs : List Value} (h : ∀ v ∈ vs, v.Lawful kept) (container : String)
    (wrong : String → Fault) (index : Value) :
    (elementIn container wrong vs index).Ensures kept ev Any (Value.Lawful kept) := by
  refine .bind (ensures_indexOf wrong index) fun i _ => ?_
  have helement : (elementAt container vs i).Ensures kept ev Any (Value.Lawful kept) := by
    unfold elementAt
    split
    · split
      · exact .pure (h _ (List.mem_of_getElem? ‹_›))
      · exact .throw trivial
    · exact .throw trivial
  split
  · exact .throw trivial
  · exact helement

omit hev in
lemma ensures_numberIn (stop : Int) (index : Value) :
    (numberIn stop index).Ensures kept ev Any (Value.Lawful kept) := by
  have hnumber : ∀ (b : Bool) (i : Int), (if b then pure (.int i)
      else throw (.indexOutOfRange "range object ") : Run Value).Ensures kept ev Any
        (Value.Lawful kept) :=
    fun b i => by
      split
      · exact .pure (.atom rfl)
      · exact .throw trivial
  exact .bind (ensures_indexOf _ index) fun i _ => hnumber _ _

omit hev in
lemma ensures_entryAt {es : Fields} (h : es.Lawful kept) {key : Value} (hk : key.Lawful kept) :
    (entryAt es key).Ensures kept ev Any (Value.Lawful kept) := by
  refine .bind (ensures_hashable hk) fun k _ => ?_
  split
  case h_1 v hv =>
    obtain ⟨t, -, ht⟩ := Option.bind_eq_some_iff.1 hv
    exact .pure (h.get? ht)
  case h_2 => exact .bind (ensures_shown _) fun _ _ => .throw trivial

omit hev in
lemma lawful_elementOf : Lawful elementOf kept ev Any := fun a ha => by
  refine .bind (ha.ensures_required trivial _ _) fun container hc => ?_
  refine .bind (ha.ensures_required trivial _ _) fun key hk => ?_
  have hatoms : ∀ {α : Type} (as : List α) (f : α → Value), (∀ a, (f a).isAtom = true) →
      ∀ v ∈ as.map f, v.Lawful kept := fun as f hf v hv => by
    obtain ⟨b, -, rfl⟩ := List.mem_map.1 hv
    exact .atom (hf b)
  split
  · exact ensures_elementIn (Value.lawful_list.1 hc) _ _ _
  · exact ensures_elementIn (Value.lawful_tuple.1 hc) _ _ _
  · exact ensures_numberIn _ _
  · exact ensures_elementIn (hatoms _ _ fun _ => rfl) _ _ _
  · exact ensures_entryAt (Value.lawful_dict.1 hc) hk
  · exact .throw trivial
  · split
    · exact ensures_elementIn (hatoms _ _ fun _ => rfl) _ _ _
    · exact .throw trivial

lemma lawful_general : ∀ p ∈ general, Lawful p.2 kept ev Any := by
  simp only [general, List.forall_mem_cons, List.not_mem_nil, false_implies, implies_true,
    and_true]
  refine ⟨fun _ ha => ?_, lawful_countDistinct hev, lawful_length hev, ?_, lawful_elementOf⟩
  · exact .bind (ha.ensures_required trivial _ _) fun _ _ =>
      .bind (ha.ensures_required trivial _ _) fun _ _ => .pure (.atom rfl)
  · exact lawful_single hev fun v _ => .bind (ensures_written v) fun _ _ => .pure (.atom rfl)

/-- All functions that validate what they make. -/
lemma lawful_all : ∀ p ∈ all, p.1 ∉ Expr.unvalidated → Lawful p.2 kept ev Any := by
  intro p hp hn
  simp only [all, environment, List.mem_append] at hp
  rcases hp with ((hp | hp) | hp | hp) | hp
  · exact lawful_layout hev p hp hn
  · exact lawful_engine hev p hp
  · exact lawful_settings hev p hp
  · exact lawful_logging hev p hp
  · exact lawful_general hev p hp

end Others

/-- Loading a bundled engine keeps a registry lawful. -/
lemma lawful_loads (f : String) {r : Registry} (h : r.Lawful kept) : (loads f r).Lawful kept := by
  unfold loads
  split <;> first
    | exact h.loadModel
    | exact h.loadDescriptor
    | exact h

end Function

end LayoutTree
