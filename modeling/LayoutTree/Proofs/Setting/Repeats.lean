import LayoutTree.Proofs.Calls.Compose
import LayoutTree.Proofs.Compose.Making
import LayoutTree.Proofs.Setting.Flags

/-!
Whether a composer repeats items if there is no configuration.

What decides is what the engine says of itself and whether there is a word for yes or for no in the
environment. Whatever else there is counts as nothing.
-/

namespace LayoutTree

open Run

/-- The environment has a word for yes, or for no, where the switch for repeating items is. -/
def Environment.Says (environment : Environment) (yes : Bool) : Prop :=
  ∃ t, environment.get? Setting.repeatItems.name = some t ∧ t.Means yes

namespace Environment

variable {environment : Environment}

/-- No environment says yes and no. -/
lemma Says.unique {yes no : Bool} (h : environment.Says yes) (h' : environment.Says no) :
    yes = no := by
  obtain ⟨t, ht, hm⟩ := h
  obtain ⟨t', ht', hm'⟩ := h'
  obtain rfl : t = t' := Option.some.inj (ht.symm.trans ht')
  exact hm.unique hm'

/-- What the switch is set to, if it is. -/
lemma exists_switch (environment : Environment) : ∃ switch : Option Bool,
    Value.ofSetting (Setting.repeatItems.valueIn environment) = .ofBool? switch ∧
      ∀ yes, switch = some yes ↔ environment.Says yes := by
  by_cases h : ∃ yes, environment.Says yes
  · obtain ⟨yes, t, ht, hm⟩ := h
    refine ⟨some yes, by rw [Setting.valueIn_of_means ht hm]; rfl, fun other => ⟨?_, fun ho => ?_⟩⟩
    · rintro ⟨⟩
      exact ⟨t, ht, hm⟩
    · rw [Says.unique ⟨t, ht, hm⟩ ho]
  · have hnone : ∀ yes, ¬ environment.Says yes := fun yes hy => h ⟨yes, hy⟩
    refine ⟨none, ?_, fun yes => ⟨nofun, fun hy => absurd hy (hnone yes)⟩⟩
    rw [Setting.valueIn_of_not_means fun t ht yes hm => hnone yes ⟨t, ht, hm⟩]
    rfl

end Environment

variable (ev : Evaluator) {s t : Session}

/-! ### The engine -/

/-- The other session differs at most by the engines that are registered and by how many objects
there are. -/
def Session.Loaded (s t : Session) : Prop :=
  ∃ r n, t = { s with registry := r, serial := n }

lemma blind_engineNamed {g : Environment → Environment} (name : Value) :
    (engineNamed name).Blind ev ev g s.Loaded := by
  rintro _ ⟨r, n, rfl⟩
  unfold engineNamed BlindAt
  split
  · exact ⟨rfl, r, n, rfl⟩
  · rw [exec_bind_ok (exec_modify ev _ _), exec_bind_ok (exec_modify ev _ _),
      exec_bind_ok (exec_get ev _), exec_bind_ok (exec_get ev _)]
    dsimp only [Session.amid]
    split
    · exact ⟨rfl, _, _, rfl⟩
    · split <;> exact ⟨rfl, _, _, rfl⟩

/-- Finding the engine that is meant takes nothing from the environment but the engine to be used if
none is given. -/
lemma blind_resolveEngine {g : Environment → Environment} (engine : Value)
    (h : Setting.engine.valueIn (g s.environment) = Setting.engine.valueIn s.environment) :
    (Composer.resolveEngine engine).Blind ev ev g s.Loaded := by
  have hresolve : ∀ v : Value, (if v.text?.isSome then engineNamed v
      else pure v : Run Value).Blind ev ev g s.Loaded := by
    intro v
    split
    · exact blind_engineNamed ev v
    · exact .pure v
  unfold Composer.resolveEngine
  split
  · refine .bind (.map _ (.setting ?_)) hresolve
    rintro _ ⟨r, n, rfl⟩
    exact h
  · exact .bind (.pure _) hresolve

/-! ### The switch -/

lemma EngineClass.repeatsOf_ofBool? (c : EngineClass) (switch : Option Bool) :
    c.repeatsOf (.ofBool? switch) = .bool (c.supports && switch.getD true) := by
  unfold repeatsOf
  cases c.supports <;> rcases switch with _ | _ | _ <;> rfl

lemma Value.isTruthy_ofBool? {switch : Option Bool} :
    (Value.ofBool? switch).isTruthy = true ↔ switch = some true := by
  rcases switch with _ | _ | _ <;> simp [ofBool?, isTruthy]

namespace Composer

variable {engine : Value} {c : EngineClass} {i : Nat}

lemma exec_make_setting {requested : Value} {r : Registry} {n : Nat}
    (hengine : (resolveEngine engine).exec ev s =
      (.ok (c.engine i), { s with registry := r, serial := n }))
    (hrequested : Value.ofSetting (Setting.repeatItems.valueIn s.environment) = requested)
    (h : s.CanLog "layoutbox.compose" .warning) : ∃ decided,
    (¬ (c.supports = false ∧ requested.isTruthy = true) → decided = s.logging.decided) ∧
    (make engine .null).exec ev s = (.ok s.composers.size,
      { s.requested c requested decided with
        registry := r
        serial := n
        composers := s.composers.push
          ⟨c.engine i, .config requested, c.repeatsOf requested⟩ }) := by
  have hconfig : (configFromSettings).exec ev { s with registry := r, serial := n } =
      (.ok (.config requested), { s with registry := r, serial := n }) := by
    rw [← hrequested]
    rfl
  have hlog : Session.CanLog { s with registry := r, serial := n } "layoutbox.compose" .warning :=
    ⟨h.method, h.number⟩
  obtain ⟨decided, hquiet, hresolve⟩ := exec_resolveRepeats ev c i requested hlog
  refine ⟨decided, hquiet, ?_⟩
  unfold make
  rw [exec_bind_ok hengine, if_pos (by rfl), exec_bind_ok hconfig, exec_bind_ok hresolve]
  rfl

/-- **What a composer takes from the environment**: if the engine is found and there is no
configuration, a composer is made whatever the environment says. It repeats items exactly if its
engine can and the environment does not say no. If the environment says yes though the engine
cannot, this is logged once, and nothing is logged otherwise. What is neither yes nor no is as good
as nothing. -/
theorem make_without_config
    (hengine : ((resolveEngine engine).exec ev
      (s.within (s.environment.unset Setting.repeatItems.name))).1 = .ok (c.engine i))
    (h : s.CanLog "layoutbox.compose" .warning) :
    ∃ config repeats t, (make engine .null).exec ev s = (.ok s.composers.size, t) ∧
      t.composers[s.composers.size]? = some ⟨c.engine i, config, .bool repeats⟩ ∧
      (repeats = true ↔ c.supports = true ∧ ¬ s.environment.Says false) ∧
      (c.supports = false ∧ s.environment.Says true → t.records =
        s.recording "layoutbox.compose" .warning (noRepeats (c.label.shown s.loggerWritten))) ∧
      (¬ (c.supports = false ∧ s.environment.Says true) → t.records = s.records) ∧
      ((∀ yes, ¬ s.environment.Says yes) → (make engine .null).exec ev
        (s.within (s.environment.unset Setting.repeatItems.name)) =
          (.ok s.composers.size, t.within (s.environment.unset Setting.repeatItems.name))) := by
  have hname : (Setting.engine.name : Text).bytes ≠ (Setting.repeatItems.name : Text).bytes := by
    decide
  have hsame : Setting.engine.valueIn (s.environment.unset Setting.repeatItems.name) =
      Setting.engine.valueIn s.environment := by
    rw [Setting.valueIn, Environment.get?_unset_of_ne hname]
    rfl
  have hblind : (resolveEngine engine).Blind ev ev
      (fun _ => s.environment.unset Setting.repeatItems.name) s.Loaded :=
    blind_resolveEngine ev engine hsame
  obtain ⟨hwithin, hloaded⟩ := hblind s ⟨_, _, rfl⟩
  rw [← Session.within] at hwithin
  obtain ⟨⟨x, u⟩, hu⟩ : ∃ y, (resolveEngine engine).exec ev s = y := ⟨_, rfl⟩
  rw [hu] at hwithin hloaded
  obtain ⟨r, n, rfl⟩ := hloaded
  obtain rfl : x = .ok (c.engine i) := by rw [← hengine, hwithin]
  obtain ⟨switch, hvalue, hmeans⟩ := s.environment.exists_switch
  have hdue : (Value.ofBool? switch).isTruthy = true ↔ s.environment.Says true :=
    Value.isTruthy_ofBool?.trans (hmeans true)
  obtain ⟨decided, hquiet, hmake⟩ := exec_make_setting ev hu hvalue h
  rw [EngineClass.repeatsOf_ofBool?] at hmake
  refine ⟨_, _, _, hmake, Array.getElem?_push_size, ?_, fun hlogged => ?_, fun hnone => ?_,
    fun hneither => ?_⟩
  · -- what is decided
    rw [← hmeans]
    rcases switch with _ | _ | _ <;> simp
  · -- asked for in vain, which is warned about
    rw [← hdue] at hlogged
    exact if_pos hlogged
  · -- nothing to warn about
    rw [← hdue] at hnone
    exact if_neg hnone
  · -- a text that says nothing is as good as none
    have hunset : ∀ yes, switch ≠ some yes := fun yes hy => hneither yes ((hmeans yes).1 hy)
    obtain rfl : switch = none := Option.eq_none_iff_forall_ne_some.2 hunset
    have hvalue' : Value.ofSetting (Setting.repeatItems.valueIn
        (s.environment.unset Setting.repeatItems.name)) = .ofBool? none := by
      rw [Setting.valueIn, Environment.get?_unset_self]
      rfl
    obtain ⟨decided', hquiet', hmake'⟩ :=
      exec_make_setting ev hwithin hvalue' ⟨h.method, h.number⟩
    have hno : ¬ (c.supports = false ∧ (Value.ofBool? none).isTruthy = true) := by
      simp [Value.isTruthy_ofBool?]
    rw [hmake', EngineClass.repeatsOf_ofBool?, hquiet hno, hquiet' hno]
    rfl

/-- The descriptor engine cannot repeat items, though the environment says yes in its own way. -/
theorem make_without_config_descriptor :
    let s := Session.initial [("LAYOUTBOX_REPEAT_ITEMS", " Yes\t")] false
    let engine := EngineClass.descriptor.engine 1
    ∃ config t, (make engine .null).exec .none s = (.ok 0, t) ∧
      t.composers[0]? = some ⟨engine, config, .bool false⟩ ∧
      t.records = #[⟨"layoutbox.compose", .warning, noRepeats "descriptor"⟩] := by
  intro s engine
  have hmeans : s.environment.Says true :=
    ⟨" Yes\t", Environment.get?_set_self_plain _ _ _, "yes", by simp [flagWords], [' '],
      "Yes".toList, ['\t'], rfl, by simp [Text.isGap, Text.isBlank], rfl⟩
  have hfound : ((resolveEngine engine).exec .none
      (s.within (s.environment.unset Setting.repeatItems.name))).1 = .ok engine := rfl
  obtain ⟨config, repeats, t, ht, hcomposer, hrepeats, hlogged, -, -⟩ :=
    make_without_config .none hfound (.of_untouched rfl fun _ => rfl)
  obtain rfl : repeats = false := by simpa [EngineClass.descriptor] using hrepeats
  exact ⟨config, t, ht, hcomposer, hlogged ⟨rfl, hmeans⟩⟩

end Composer

end LayoutTree
