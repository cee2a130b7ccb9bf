import LayoutTree.Proofs.Calls.Compose
import LayoutTree.Proofs.Setting.Flags
import LayoutTree.Script.Eval

/-!
What composing takes from the environment: the engine if none is given, and whether to repeat items
if there is no configuration. What the environment says besides makes no difference, and composing
changes neither the environment nor builders.
-/

namespace LayoutTree

open Run

/-! ### Code that does not mind the environment -/

/-- The environment, the builders and the composers stayed, new composers lack nothing, and no code
was left behind that is not foreign. -/
structure Session.Calm (foreign : Code → Prop) (s t : Session) : Prop where
  environment : t.environment = s.environment
  boxes : ∀ (id : Nat) (b : Box), s.boxes[id]? = some b → t.boxes[id]? = some b
  size : s.composers.size ≤ t.composers.size
  composers : ∀ (id : Nat) (C : Composer), t.composers[id]? = some C →
    s.composers[id]? = some C ∨
      s.composers.size ≤ id ∧ C.engine.isNull = false ∧ C.config.isNull = false
  among : t.Among foreign

/-- In another environment foreign code does the same, and it leaves a session calm. -/
structure Evaluator.Heedless (ev : Evaluator) (foreign : Code → Prop) (e e' : Environment) :
    Prop where
  evaluate : ∀ x, foreign (.block x) → ∀ s : Session, s.environment = e → s.Among foreign →
    (Run.evaluate x).BlindAt ev ev (fun _ => e') (s.Calm foreign) s
  invoke : ∀ v name a, foreign (.method v name) → ∀ s : Session, s.environment = e →
    s.Among foreign → (Run.invoke v name a).BlindAt ev ev (fun _ => e') (s.Calm foreign) s

namespace Session

variable {foreign : Code → Prop} {s t u : Session}

namespace Calm

lemma refl (hs : s.Among foreign) : s.Calm foreign s :=
  ⟨rfl, fun _ _ h => h, Nat.le_refl _, fun _ _ h => .inl h, hs⟩

lemma trans (h : s.Calm foreign t) (h' : t.Calm foreign u) : s.Calm foreign u where
  environment := h'.environment.trans h.environment
  boxes id b hb := h'.boxes id b (h.boxes id b hb)
  size := Nat.le_trans h.size h'.size
  composers id C hC := by
    rcases h'.composers id C hC with hC | ⟨hid, hC⟩
    · exact h.composers id C hC
    · exact .inr ⟨Nat.le_trans h.size hid, hC⟩
  among := h'.among

end Calm

lemma Writes.calm (h : s.Writes foreign t) (hs : s.Among foreign) : s.Calm foreign t := by
  have hboxes : ∀ (id : Nat) (b : Box), s.boxes[id]? = some b → t.boxes[id]? = some b :=
    fun id b hb => by rw [h.boxes, hb]
  have hamong := h.among hs
  cases h with
  | @composed C he hc =>
    refine ⟨rfl, hboxes, by simp, fun id D hD => ?_, hamong⟩
    rcases Nat.lt_trichotomy id s.composers.size with hid | rfl | hid
    · exact .inl (by rwa [Array.getElem?_push_lt hid, ← Array.getElem?_eq_getElem hid] at hD)
    · rw [Array.getElem?_push_size] at hD
      cases hD
      exact .inr ⟨Nat.le_refl _, he, hc⟩
    · rw [Array.getElem?_eq_none (by simpa [Nat.succ_le_iff] using hid)] at hD
      cases hD
  | _ => exact ⟨rfl, hboxes, Nat.le_refl _, fun _ _ hC => .inl hC, hamong⟩

/-- What the library writes while composing is as calm as foreign code is. -/
lemma stable_calm {ev : Evaluator} {e' : Environment}
    (hev : ev.Heedless foreign s.environment e') :
    Stable ev ev (fun _ => e') foreign (s.Calm foreign) where
  depth := rfl
  among _ ht := ht.among
  writes _ _ hw ht := ht.trans (hw.calm ht.among)
  evaluate x hx t ht := by
    obtain ⟨hsame, hcalm⟩ := hev.evaluate x hx t ht.environment ht.among
    exact ⟨hsame, ht.trans hcalm⟩
  invoke v name a hc t ht := by
    obtain ⟨hsame, hcalm⟩ := hev.invoke v name a hc t ht.environment ht.among
    exact ⟨hsame, ht.trans hcalm⟩

/-- Composers that were made meanwhile leave nothing to the settings. -/
lemma Calm.settled {g : Environment → Environment} {P : Session → Prop} (ht : s.Calm foreign t)
    {id : Nat} {C : Composer} (hid : s.composers.size ≤ id) (hC : t.composers[id]? = some C) :
    Settled g P C.engine C.config := by
  rcases ht.composers id C hC with hold | ⟨-, he, hc⟩
  · rw [Array.getElem?_eq_none hid] at hold
    cases hold
  · exact ⟨fun hnull => by simp [he] at hnull, fun hnull => by simp [hc] at hnull⟩

end Session

/-! ### Composing -/

/-- What can be composed with an engine: a builder, a node, and a section or a layout of what else
is given. -/
inductive Composing where
  | builder (kind : BoxKind) (id : Nat)
  | node (n : Value)
  | makeSection (group insets spacing : Value)
  | makeLayout (sections : List Value)

namespace Composing

def run (engine config : Value) : Composing → Run Value
  | builder kind id => composeBox kind id engine config
  | node n => do Composer.compose (← Composer.make engine config) n
  | makeSection group insets spacing => Layout.makeSection group engine config insets spacing
  | makeLayout sections => Layout.make sections engine config

variable {ev ev' : Evaluator} {g : Environment → Environment} {foreign : Code → Prop}

lemma blind_run {P : Session → Prop} (hP : Session.Stable ev ev' g foreign P)
    {engine config : Value} (h : Session.Settled g P engine config) (own : Nat → Prop)
    (hsize : ∀ s, P s → own s.composers.size)
    (hown : ∀ s, P s → ∀ id C, own id → s.composers[id]? = some C →
      Session.Settled g P C.engine C.config) (c : Composing) :
    (c.run engine config).Blind ev ev' g P := by
  cases c with
  | builder kind id => exact hP.composeBox kind id h
  | node n => exact .bind (hP.makeComposer h) fun c => hP.compose c n
  | makeSection group insets spacing => exact hP.makeSection group h insets spacing
  | makeLayout sections => exact hP.makeLayout sections h own hsize hown

/-- **The environment matters only through two settings**: two environments that agree on the engine
to be used, if none is given, and on whether to repeat items, if there is no configuration, make no
difference to composing. The result or the fault is the same, and so is all that is left behind, the
calls of the engine and the records that are logged included. The environment and the builders stay
as they are, whether composing succeeds or fails. Only code of a script that is called meanwhile, a
generator or a method that was put in place of another, has to be as heedless itself. -/
theorem composing_in_environments {s : Session} {e : Environment}
    (hev : ev.Heedless foreign s.environment e) (hs : s.Among foreign) (c : Composing)
    (engine config : Value)
    (hengine : engine.isNull = true →
      Setting.engine.valueIn e = Setting.engine.valueIn s.environment)
    (hrepeats : config.isNull = true →
      Setting.repeatItems.valueIn e = Setting.repeatItems.valueIn s.environment) :
    ∃ result t, (c.run engine config).exec ev s = (result, t) ∧
      (c.run engine config).exec ev (s.within e) = (result, t.within e) ∧
      t.environment = s.environment ∧
      ∀ (id : Nat) (b : Box), s.boxes[id]? = some b → t.boxes[id]? = some b := by
  have hsettled : Session.Settled (fun _ => e) (s.Calm foreign) engine config :=
    ⟨fun hnull t ht => by rw [ht.environment, hengine hnull],
      fun hnull t ht => by rw [ht.environment, hrepeats hnull]⟩
  obtain ⟨hsame, hcalm⟩ := blind_run (Session.stable_calm hev) hsettled
    (fun id => s.composers.size ≤ id) (fun t ht => ht.size)
    (fun t ht id C hid hC => ht.settled hid hC) c s (.refl hs)
  exact ⟨_, _, rfl, hsame, hcalm.environment, hcalm.boxes⟩

/-- Reading a register is looking something up. -/
lemma blind_register {P : Session → Prop} (n : Nat) (name : Text) :
    (Run.evaluate (.register name)).Blind (.within (n + 1)) (.within (n + 1)) g P := by
  have hlook : (Run.register name).Blind (.within n) (.within n) g P := by
    refine .get (fun _ => rfl) fun s => ?_
    split
    · exact .pure _
    · exact .throw _
  have hread : ∀ s, (Run.evaluate (.register name)).exec (.within (n + 1)) s =
      (Run.register name).exec (.within n) s := fun s => by
    change (Run.evalExpr (.register name)).exec _ s = _
    rw [Run.evalExpr]
  intro s hs
  unfold Run.BlindAt
  rw [hread, hread]
  exact hlook s hs

/-- The children of a group come from a generator, whose code does not mind the environment. In the
other one there is another default engine and another word for yes. -/
theorem composing_in_environments_generator :
    let ev := Evaluator.within 4
    let z : LayoutSize := ⟨0, ⟨0, .absolute, .zero⟩, ⟨0, .absolute, .zero⟩⟩
    let engine := EngineClass.model.engine 1
    let s : Session := { Session.initial [("LAYOUTBOX_REPEAT_ITEMS", "true")] false with
      serial := 2
      registers := [("slot", .slot 0 (.text "slot") (.size z) .null .null (.int 1))]
      cursors := #[⟨.statements [(.yield, .register "slot"), (.yield, .register "slot")], false⟩] }
    let e : Environment :=
      .ofList [("LAYOUTBOX_ENGINE", "grid"), ("LAYOUTBOX_REPEAT_ITEMS", " YES ")]
    let group : Value := .group 0 (.text "group") (.size z) .null .null (.direction .vertical) .null
      (.cursor .generator 0)
    Setting.engine.valueIn e ≠ Setting.engine.valueIn s.environment ∧
      ∃ result t, (run engine .null (.node group)).exec ev s = (result, t) ∧
        (run engine .null (.node group)).exec ev (s.within e) = (result, t.within e) := by
  intro ev z engine s e group
  let foreign : Code → Prop := (· = .block (.register "slot"))
  have hev : ev.Heedless foreign s.environment e := {
    evaluate := by
      rintro x ⟨⟩ t - ht
      exact blind_register 3 "slot" t (.refl ht)
    invoke := by rintro v name a ⟨⟩ }
  have hs : s.Among foreign := {
    hooked := by rintro i name v - ⟨⟩
    pending := by
      intro id c body hc hbody p hp
      obtain rfl : id = 0 := by
        have := (Array.getElem?_eq_some_iff.1 hc).1
        simpa [s] using this
      cases hc
      cases hbody
      simp only [List.mem_cons, List.not_mem_nil, or_false, or_self] at hp
      rw [hp] }
  have hname : (Setting.engine.name : Text).bytes ≠ (Setting.repeatItems.name : Text).bytes := by
    decide
  have hengine : Setting.engine.valueIn e = .text "grid" := by
    unfold Setting.valueIn
    rw [show e.get? Setting.engine.name = some "grid" from
      (Environment.get?_set_of_ne hname _ _).trans (Environment.get?_set_self_plain _ _ _)]
    rfl
  have hdefault : Setting.engine.valueIn s.environment = .text "model" := by
    unfold Setting.valueIn
    rw [show s.environment.get? Setting.engine.name = none from
      Environment.get?_set_of_ne hname _ _]
    rfl
  have hyes : ("true" : Text).Means true :=
    ⟨"true", by simp [flagWords], [], "true".toList, [], rfl, by simp, rfl⟩
  have hyes' : (" YES " : Text).Means true :=
    ⟨"yes", by simp [flagWords], [' '], "YES".toList, [' '], rfl,
      by simp [Text.isGap, Text.isBlank], rfl⟩
  have hgiven : ¬ engine.isNull = true := Bool.false_ne_true
  obtain ⟨result, t, ht, hwithin, -, -⟩ := composing_in_environments hev hs (.node group) engine
    .null (absurd · hgiven) fun _ =>
      (Setting.valueIn_of_means (Environment.get?_set_self_plain _ _ _) hyes').trans
        (Setting.valueIn_of_means (Environment.get?_set_self_plain _ _ _) hyes).symm
  exact ⟨by rw [hengine, hdefault]; decide, result, t, ht, hwithin⟩

end Composing

end LayoutTree
