import LayoutTree.Proofs.Calls.Host

/-!
Composing, and making sections and layouts with it. The recursion over a tree of nodes is followed
case by case, cursors among children included.
-/

namespace LayoutTree

open Run

variable {ev ev' : Evaluator} {g : Environment → Environment} {foreign : Code → Prop}
  {P : Session → Prop}

lemma Run.Blind.directionShown (group : Value) : (Composer.directionShown group).Blind ev ev' g P :=
  .bind (blind_field _ _) fun _ => .bind (blind_field _ _) fun _ =>
    .get (fun _ => rfl) fun _ => .pure _

lemma Run.Blind.requireChildren (group children : Value) :
    (Composer.requireChildren group children).Blind ev ev' g P := by
  unfold Composer.requireChildren
  split
  · exact .bind (.directionShown _) fun _ => .throw _
  · exact .pure _

namespace Session

/-! ### What is left to the settings -/

/-- What a caller leaves to the settings, the engine or whether to repeat items, is the same in both
environments. -/
structure Settled (g : Environment → Environment) (P : Session → Prop) (engine config : Value) :
    Prop where
  engine : engine.isNull = true → ∀ s, P s →
    Setting.engine.valueIn (g s.environment) = Setting.engine.valueIn s.environment
  repeats : config.isNull = true → ∀ s, P s →
    Setting.repeatItems.valueIn (g s.environment) = Setting.repeatItems.valueIn s.environment

lemma Settled.same (P : Session → Prop) (engine config : Value) : Settled id P engine config :=
  ⟨fun _ _ _ => rfl, fun _ _ _ => rfl⟩

end Session

/-- A setting that is the same in both environments may be read. -/
lemma Run.Blind.setting {x : Setting}
    (h : ∀ s, P s → x.valueIn (g s.environment) = x.valueIn s.environment) :
    (Run.setting x).Blind ev ev' g P := by
  intro s hs
  refine ⟨?_, hs⟩
  change (Except.ok (x.valueIn (g s.environment)), s.amid g) = _
  rw [h s hs]
  rfl

lemma isNull_of_engineNamed {s t : Session} {name e : Value}
    (h : (engineNamed name).exec ev s = (.ok e, t)) : e.isNull = false := by
  unfold engineNamed at h
  split at h
  · cases h
  · rw [exec_bind_ok (exec_modify ev s _), exec_bind_ok (Run.exec_get ev _)] at h
    dsimp only at h
    split at h
    · cases h
      rfl
    · split at h <;> cases h

lemma isNull_of_resolveEngine {s t : Session} {engine e : Value}
    (h : (Composer.resolveEngine engine).exec ev s = (.ok e, t)) : e.isNull = false := by
  have hresolved : ∀ {v : Value} {s : Session}, (v.isNull = true → v.text?.isSome = true) →
      (if v.text?.isSome then engineNamed v else pure v : Run Value).exec ev s = (.ok e, t) →
      e.isNull = false := by
    intro v s hv h
    split at h
    · exact isNull_of_engineNamed h
    · next htext =>
      cases h
      exact Bool.eq_false_iff.2 fun hnull => htext (hv hnull)
  unfold Composer.resolveEngine at h
  split at h
  · obtain ⟨v, u, hv, h⟩ := exec_bind_eq_ok h
    refine hresolved (fun _ => ?_) h
    cases hv
    unfold Setting.valueIn
    cases s.environment.get? Setting.engine.name <;> rfl
  · next hgiven => exact hresolved (fun hnull => absurd hnull hgiven) h

namespace Session.Stable

section

variable (hP : Session.Stable ev ev' g foreign P)
include hP

/-! ### Making composers -/

lemma resolveRepeats (engine config : Value) :
    (Composer.resolveRepeats engine config).Blind ev ev' g P := by
  refine .bind (blind_field _ _) fun requested => .bind (blind_field _ _) fun _ => ?_
  split
  · exact .pure _
  · split
    · exact .bind (blind_field _ _) fun _ => .bind (.get (fun _ => rfl) fun _ => .pure _) fun _ =>
        .bind (hP.log _ (by decide) _) fun _ => .pure _
    · exact .pure _

lemma resolveEngine {engine : Value} (h : engine.isNull = true → ∀ s, P s →
      Setting.engine.valueIn (g s.environment) = Setting.engine.valueIn s.environment) :
    (Composer.resolveEngine engine).Blind ev ev' g P := by
  have hresolve : ∀ v : Value, (if v.text?.isSome then Run.engineNamed v
      else pure v : Run Value).Blind ev ev' g P := by
    intro v
    split
    · exact hP.engineNamed v
    · exact .pure v
  unfold Composer.resolveEngine
  split
  · next hnull => exact .bind (.map _ (.setting (h hnull))) hresolve
  · exact .bind (.pure _) hresolve

lemma makeComposer {engine config : Value} (h : Settled g P engine config) :
    (Composer.make engine config).Blind ev ev' g P := by
  have hrest : ∀ e c : Value, e.isNull = false → c.isNull = false → (do
      Run.newComposer ⟨e, c, ← Composer.resolveRepeats e c⟩ : Run Nat).Blind ev ev' g P :=
    fun e c he hc => .bind (hP.resolveRepeats e c) fun _ => hP.newComposer he hc
  refine .bind_ok (hP.resolveEngine h.engine) (fun _ _ _ _ he => isNull_of_resolveEngine he)
    fun e he => ?_
  split
  · next hnull =>
    refine .bind_ok (Q := fun c : Value => c.isNull = false)
      (.bind (.setting (h.repeats hnull)) fun _ => .pure _) (fun _ _ _ _ hc => ?_) fun c hc =>
        hrest e c he hc
    cases hc
    rfl
  · next hgiven =>
    rw [pure_bind]
    exact hrest e config he (by simpa using hgiven)

/-- The composer that is made comes next. -/
lemma own_of_make {own : Nat → Prop} (hsize : ∀ s, P s → own s.composers.size)
    {engine config : Value} (h : Settled g P engine config) {s t : Session} (hs : P s) {id : Nat}
    (hid : (Composer.make engine config).exec ev s = (.ok id, t)) : own id := by
  have hrest : ∀ {e c : Value} {u : Session}, P u → (do
      Run.newComposer ⟨e, c, ← Composer.resolveRepeats e c⟩ : Run Nat).exec ev u = (.ok id, t) →
      own id := by
    intro e c u hu h
    obtain ⟨r, w, hr, h⟩ := exec_bind_eq_ok h
    have hw := (hP.resolveRepeats e c).keeps u hu
    rw [hr] at hw
    cases h
    exact hsize w hw
  obtain ⟨e, u, he, hid⟩ := exec_bind_eq_ok hid
  have hu := (hP.resolveEngine h.engine).keeps s hs
  rw [he] at hu
  split at hid
  · obtain ⟨c, w, hc, hid⟩ := exec_bind_eq_ok hid
    cases hc
    exact hrest hu hid
  · exact hrest hu hid

/-! ### Slots -/

lemma composerOperate (id : Nat) {operation : String} (ho : operation ∈ EngineClass.operations)
    {operands : Run (List Value)} (hop : operands.Blind ev ev' g P) :
    (Composer.operate id operation operands).Blind ev ev' g P :=
  .bind (.composer id) fun _ => hP.operate _ ho (.bind hop fun _ => .pure _)

lemma applyConfig (id : Nat) (obj node : Value) :
    (Composer.applyConfig id obj node).Blind ev ev' g P := by
  have hfield : ∀ (obj : Value) (name : String),
      (do return [obj, ← field node name] : Run (List Value)).Blind ev ev' g P := fun _ _ =>
    .bind (blind_field _ _) fun _ => .pure _
  have hedges : ∀ obj : Value, (do
      let edges ← field node "edge_spacing"
      if edges.isNull then pure obj
      else Composer.operate id "with_edge_spacing" do return [obj, ← field node "edge_spacing"]
      : Run Value).Blind ev ev' g P := by
    intro obj
    refine .bind (blind_field _ _) fun edges => ?_
    split
    · exact .pure _
    · exact hP.composerOperate id (by decide) (hfield obj _)
  refine .bind (blind_field _ _) fun insets => ?_
  split
  · exact .bind (.pure _) hedges
  · exact .bind (hP.composerOperate id (by decide) (hfield obj _)) hedges

lemma configured (id : Nat) (obj node : Value) :
    (Composer.configure id obj node).Blind ev ev' g P :=
  hP.callMethodOr (by decide) _ _ (hP.applyConfig id obj node)

lemma composeSlot (id : Nat) (slot : Value) : (Composer.composeSlot id slot).Blind ev ev' g P :=
  .bind (hP.composerOperate id (by decide) (.bind (blind_field _ _) fun _ => .pure _))
    fun item => .bind (hP.configured id item slot) fun _ =>
      .bind (blind_field _ _) fun _ => .lift _

lemma slotSubitems (id : Nat) (slot : Value) :
    (Composer.slotSubitems id slot).Blind ev ev' g P :=
  hP.attached (by decide) _ (fun _ hf => .bind (hP.call hf _) hP.elements) (hP.composeSlot id slot)

/-! ### Groups -/

lemma repeatsItems (id : Nat) (group : Value) (subitems : List Value) :
    (Composer.repeatsItems id group subitems).Blind ev ev' g P := by
  refine .bind (.composer id) fun c => ?_
  split
  · exact .bind (blind_field _ _) fun _ => .bind (hP.elements _) fun _ => .lift _
  · exact .pure _

lemma assemble (id : Nat) (group : Value) (subitems : List Value) :
    (Composer.assemble id group subitems).Blind ev ev' g P := by
  have hrepeated : (Composer.repeatedGroup id group subitems).Blind ev ev' g P := by
    refine .bind (.directionShown group) fun _ => .bind (hP.log _ (by decide) _) fun _ => ?_
    exact hP.composerOperate id (by decide) (.bind (blind_field _ _) fun _ =>
      .bind (blind_field _ _) fun _ => .pure _)
  have hlisted : (Composer.listedGroup id group subitems).Blind ev ev' g P :=
    hP.composerOperate id (by decide) (.bind (blind_field _ _) fun _ =>
      .bind (blind_field _ _) fun _ => .pure _)
  have hlog : ∀ obj : Value, (do
      Run.log "layoutbox.compose" .debug ("Composed " ++ (← Composer.directionShown group)
        ++ " group with " ++ toString subitems.length ++ " subitems")
      pure obj : Run Value).Blind ev ev' g P := fun obj =>
    .bind (.directionShown group) fun _ => .bind (hP.log _ (by decide) _) fun _ => .pure obj
  have hconfigured : ∀ obj : Value, (do
      let obj ← Composer.configure id obj group
      let spacing ← field group "inter_item_spacing"
      let obj ← if spacing.isNull then pure obj
        else Composer.operate id "with_inter_item_spacing" do
          return [obj, ← field group "inter_item_spacing"]
      Run.log "layoutbox.compose" .debug ("Composed " ++ (← Composer.directionShown group)
        ++ " group with " ++ toString subitems.length ++ " subitems")
      pure obj : Run Value).Blind ev ev' g P := by
    intro obj
    refine .bind (hP.configured id obj group) fun obj => .bind (blind_field _ _) fun g => ?_
    dsimp only
    split
    · -- no space between the items is given
      exact .bind (.pure obj) hlog
    · refine .bind (hP.composerOperate id (by decide) ?_) hlog
      exact .bind (blind_field _ _) fun _ => .pure _
  refine .bind (hP.repeatsItems id group subitems) fun b => ?_
  split
  · exact .bind hrepeated hconfigured
  · exact .bind hlisted hconfigured

end

mutual

lemma childSubitems (hP : Session.Stable ev ev' g foreign P) (id : Nat)
    {deep : Value → Run (List Value)} (hdeep : ∀ v, (deep v).Blind ev ev' g P) (v : Value) :
    (Composer.childSubitems id deep v).Blind ev ev' g P := by
  cases v with
  | slot => exact hP.slotSubitems id _
  | group i k s n e d g cs =>
    refine .bind (hP.callMethodOr (by decide) _ _ ?_) fun _ => .pure _
    exact .bind (.requireChildren _ _) fun _ => .bind (hP.groupSubitems id hdeep cs) fun xs =>
      hP.assemble id _ xs
  | _ => exact .throw _

lemma groupSubitems (hP : Session.Stable ev ev' g foreign P) (id : Nat)
    {deep : Value → Run (List Value)} (hdeep : ∀ v, (deep v).Blind ev ev' g P) (v : Value) :
    (Composer.groupSubitems id deep v).Blind ev ev' g P := by
  cases v with
  | list xs => exact hP.allSubitems id hdeep 0 xs
  | tuple xs => exact hP.allSubitems id hdeep 0 xs
  | _ => exact .bind (hP.forElements _ hdeep) fun _ => .lift _

lemma allSubitems (hP : Session.Stable ev ev' g foreign P) (id : Nat)
    {deep : Value → Run (List Value)} (hdeep : ∀ v, (deep v).Blind ev ev' g P) (held : Nat)
    (vs : List Value) : (Composer.allSubitems id deep held vs).Blind ev ev' g P := by
  cases vs with
  | nil => exact .pure _
  | cons v vs =>
    exact .bind (hP.childSubitems id hdeep v) fun _ => .bind (.lift _) fun _ =>
      .bind (hP.allSubitems id hdeep _ vs) fun _ => .pure _

end

section

variable (hP : Session.Stable ev ev' g foreign P)
include hP

lemma composeGroup (id : Nat) (group : Value) :
    (Composer.composeGroup id group).Blind ev ev' g P := by
  have hwithin : ∀ n v, (Composer.childSubitemsWithin id n v).Blind ev ev' g P := by
    intro n
    induction n with
    | zero => exact fun _ => .throw _
    | succ n ih => exact hP.childSubitems id ih
  refine .read (by rw [hP.depth]) <| .bind (blind_field _ _) fun cs => ?_
  exact .bind (.requireChildren _ _) fun _ => .bind (blind_field _ _) fun cs =>
    .bind (hP.groupSubitems id (hwithin _) cs) fun xs => hP.assemble id group xs

lemma compose (id : Nat) (node : Value) : (Composer.compose id node).Blind ev ev' g P := by
  unfold Composer.compose
  split
  · exact hP.callMethodOr (by decide) _ _ (.bind (hP.composeSlot id _) fun _ => .pure _)
  · exact hP.callMethodOr (by decide) _ _ (hP.composeGroup id _)
  · exact .throw _
  · exact .throw _

lemma composeBox (kind : BoxKind) (id : Nat) {engine config : Value}
    (h : Settled g P engine config) : (Run.composeBox kind id engine config).Blind ev ev' g P := by
  refine .bind (hP.makeComposer h) fun c => .bind (hP.node kind id) fun node => ?_
  cases kind with
  | item => exact .bind (hP.composeSlot c node) fun _ => .pure _
  | group => exact hP.composeGroup c node

/-! ### Sections and layouts -/

lemma makeSection (group : Value) {engine config : Value} (h : Settled g P engine config)
    (insets spacing : Value) :
    (Layout.makeSection group engine config insets spacing).Blind ev ev' g P := by
  refine .bind (hP.makeComposer h) fun c => .bind ?_ fun node => ?_
  · unfold Layout.groupNode
    split
    · exact hP.node _ _
    · exact .pure _
  · exact .bind (.composer c) fun _ => hP.operate _ (by decide)
      (.bind (hP.composeGroup c node) fun _ => .pure _)

/-- The sections of a layout are made with what its composer was made with, so nothing is left to
the settings there if composers of its own kind lack nothing. -/
lemma makeLayout (sections : List Value) {engine config : Value} (h : Settled g P engine config)
    (own : Nat → Prop) (hsize : ∀ s, P s → own s.composers.size)
    (hown : ∀ s, P s → ∀ id C, own id → s.composers[id]? = some C →
      Settled g P C.engine C.config) :
    (Layout.make sections engine config).Blind ev ev' g P := by
  have hsections : ∀ c xs, own c → (Layout.resolveSections c xs).Blind ev ev' g P := by
    intro c xs hc
    induction xs with
    | nil => exact .pure _
    | cons x xs ih =>
      rw [Layout.resolveSections]
      split
      · -- a group, whose composer is one of its own
        refine .look fun s hs => ?_
        rcases hC : s.composers[c]? with _ | C
        · exact ⟨_, fun ev _ => exec_composer_missing ev hC, nofun⟩
        refine ⟨_, fun ev _ => exec_composer ev hC, fun D hD => ?_⟩
        cases hD
        exact Blind.bind (hP.makeSection x (hown s hs c C hc hC) _ _) (fun _ =>
          .bind ih fun _ => .pure _) s hs
      · -- a section that is ready
        exact .bind (.pure x) fun _ => .bind ih fun _ => .pure _
  have hmade : (do
      let c ← Composer.make engine config
      let sections ← Layout.resolveSections c sections
      Run.operate (← composer c).engine "make_layout" (pure ⟨[.list sections], []⟩) :
      Run Value).Blind ev ev' g P :=
    .bind_ok (hP.makeComposer h) (fun _ _ _ hs hc => hP.own_of_make hsize h hs hc) fun c hc =>
      .bind (hsections c sections hc) fun _ => .bind (.composer c) fun _ =>
        hP.operate _ (by decide) (.pure _)
  unfold Layout.make
  split
  · exact .bind (.throw _) fun _ => hmade
  · exact hmade

end

end Session.Stable

end LayoutTree
