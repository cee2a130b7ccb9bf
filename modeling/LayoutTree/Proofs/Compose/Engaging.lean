import LayoutTree.Proofs.Compose.Engines

/-!
Making a composer of what a caller gives: an engine, the name of one, or nothing, and a
configuration or nothing.

Which class of engine is meant, and what is asked about repetition, depends on the settings and on
the registry alone, and is the same again after a composer was made.
-/

namespace LayoutTree

open Run

namespace Session

/-! ### Sessions in which composing goes on -/

/-- No script has replaced a method of a composer that is yet to come, nothing is attached to
identities that are not given out, and composing can log. -/
structure Undisturbed (s : Session) : Prop where
  composers : ∀ id, s.composers.size ≤ id → ∀ name, s.attribute? (.composer id) name = none
  unattached : s.Unattached
  logs : s.CanLog "layoutbox.compose" .debug
  warns : s.CanLog "layoutbox.compose" .warning

lemma undisturbed_initial (environment : List (Text × Text)) (stream : Bool) :
    (initial environment stream).Undisturbed where
  composers _ _ _ := rfl
  unattached _ _ := rfl
  logs := .of_untouched rfl fun _ => rfl
  warns := .of_untouched rfl fun _ => rfl

/-- The other session has more composers, other registered engines, or differs in what composing
changes besides. -/
def Advances (s t : Session) : Prop :=
  ∃ cs r, ({ s with composers := s.composers ++ cs, registry := r } : Session).Evolves t

namespace Advances

variable {s t u : Session}

lemma of_evolves (h : s.Evolves t) : s.Advances t := ⟨#[], s.registry, by simpa using h⟩

lemma refl (s : Session) : s.Advances s := .of_evolves (.refl s)

lemma trans (h : s.Advances t) (hu : t.Advances u) : s.Advances u := by
  obtain ⟨cs, r, n, taken, hn, d, rs, rfl⟩ := h
  obtain ⟨cs', r', n', taken', hn', d', rs', rfl⟩ := hu
  refine ⟨cs ++ cs', r', n', taken', Nat.le_trans hn hn', d', rs', ?_⟩
  simp only [Array.append_assoc]

lemma engaging (s : Session) (C : Composer) : s.Advances (s.engaging C) :=
  ⟨#[C], s.registry, .refl _⟩

lemma reserving (s : Session) {n : Nat} (hn : s.serial ≤ n) : s.Advances (s.reserving n) :=
  .of_evolves (.reserving s hn)

lemma undisturbed (h : s.Advances t) (hs : s.Undisturbed) : t.Undisturbed := by
  obtain ⟨cs, r, n, taken, hn, d, rs, rfl⟩ := h
  refine ⟨fun id hid => hs.composers id ?_, fun i hi => hs.unattached i (Nat.le_trans hn hi),
    ⟨hs.logs.method, hs.logs.number⟩, ⟨hs.warns.method, hs.warns.number⟩⟩
  rw [Array.size_append] at hid
  omega

lemma attribute? (h : s.Advances t) (i : Identity) (name : Text) :
    t.attribute? i name = s.attribute? i name := by
  obtain ⟨cs, r, n, taken, hn, d, rs, rfl⟩ := h
  rfl

lemma box? (h : s.Advances t) (id : Nat) : t.boxes[id]? = s.boxes[id]? := by
  obtain ⟨cs, r, n, taken, hn, d, rs, rfl⟩ := h
  rfl

lemma composer? (h : s.Advances t) {id : Nat} {C : Composer} (hC : s.composers[id]? = some C) :
    t.composers[id]? = some C := by
  obtain ⟨cs, r, n, taken, hn, d, rs, rfl⟩ := h
  obtain ⟨hid, -⟩ := Array.getElem?_eq_some_iff.1 hC
  rw [← hC]
  exact Array.getElem?_append_left hid

lemma refusal (h : s.Advances t) (c : EngineClass) : c.refusal t = c.refusal s := by
  obtain ⟨cs, r, n, taken, hn, d, rs, rfl⟩ := h
  rfl

end Advances

/-! ### What a caller gives -/

/-- What stands in the place of an engine, or the name in the settings if nothing does. -/
def engineMeant (s : Session) (engine : Value) : Value :=
  if engine.isNull then .ofSetting (Setting.engine.valueIn s.environment) else engine

/-- The class of the engine that is meant, if there is one. -/
def class? (s : Session) (engine : Value) : Option EngineClass :=
  match s.engineMeant engine with
  | .engine _ kind label supports => some ⟨kind, label, supports⟩
  | name => (s.registry.lookUp name).find? name

/-- An engine that no script has changed, a name, or nothing. -/
inductive IsEngine (s : Session) : Value → Prop
  | given (c : EngineClass) {id : Nat} (h : ∀ name, s.attribute? (.object id) name = none) :
      IsEngine s (c.engine id)
  | named {name : Value} (h : name.text?.isSome = true) : IsEngine s name
  | missing : IsEngine s .null

/-- What a configuration asks for about repetition; without one, what the settings do. -/
def requested? (s : Session) : Value → Option Value
  | .config requested => some requested
  | .null => some (.ofSetting (Setting.repeatItems.valueIn s.environment))
  | _ => none

/-- A caller may give the engine, which is one of the class, and the configuration, which asks for
so much. -/
structure Provides (s : Session) (engine config : Value) (c : EngineClass) (requested : Value) :
    Prop where
  undisturbed : s.Undisturbed
  isEngine : s.IsEngine engine
  class? : s.class? engine = some c
  requested? : s.requested? config = some requested

/-- The composer of an identity was made with an engine of the class and asked for so much, and no
script has changed it. -/
structure Engaged (s : Session) (id : Nat) (C : Composer) (c : EngineClass) (requested : Value) :
    Prop where
  undisturbed : s.Undisturbed
  composer : s.composers[id]? = some C
  own : ∀ name, s.attribute? (.composer id) name = none
  config : C.config = .config requested
  repeats : C.repeats.isTruthy = c.repeatsFor requested
  engine : ∃ i, C.engine = c.engine i ∧ ∀ name, s.attribute? (.object i) name = none

/-- An engine under a name, or the one that the settings name, is looked up by a text. -/
lemma IsEngine.elim {s : Session} {engine : Value} (h : s.IsEngine engine) :
    (∃ c id, engine = EngineClass.engine c id ∧
        (∀ name, s.attribute? (.object id) name = none) ∧ s.class? engine = some c) ∨
      ∃ name, s.engineMeant engine = name ∧ name.text?.isSome = true ∧
        s.class? engine = (s.registry.lookUp name).find? name := by
  have htext : ∀ {name : Value}, s.engineMeant engine = name → name.text?.isSome = true →
      s.class? engine = (s.registry.lookUp name).find? name := by
    intro name hn ht
    unfold Session.class?
    rw [hn]
    cases name <;> first | rfl | simp [Value.text?] at ht
  cases h with
  | given c h => exact .inl ⟨c, _, rfl, h, rfl⟩
  | named h =>
    have hn : s.engineMeant engine = engine := by
      unfold engineMeant
      rw [if_neg]
      rintro hnull
      cases engine <;> cases hnull
      cases h
    exact .inr ⟨engine, hn, h, htext hn h⟩
  | missing =>
    have ht : (Value.ofSetting (Setting.engine.valueIn s.environment)).text?.isSome = true := by
      unfold Setting.valueIn
      cases s.environment.get? Setting.engine.name <;> rfl
    exact .inr ⟨_, rfl, ht, htext rfl ht⟩

namespace Provides

variable {s t : Session} {engine config requested : Value} {c : EngineClass}

/-- While no engine is registered the same engine is meant. -/
lemma of_evolves (h : s.Provides engine config c requested) (ht : s.Evolves t) :
    t.Provides engine config c requested := by
  have hadvances := Advances.of_evolves ht
  refine ⟨hadvances.undisturbed h.undisturbed, ?_, ?_, ?_⟩
  · cases h.isEngine with
    | given c' hown => exact .given c' fun name => by rw [hadvances.attribute?, hown]
    | named h => exact .named h
    | missing => exact .missing
  · obtain ⟨n, taken, -, d, rs, rfl⟩ := ht
    exact h.class?
  · obtain ⟨n, taken, -, d, rs, rfl⟩ := ht
    exact h.requested?

lemma engaging (h : s.Provides engine config c requested) (C : Composer) :
    (s.engaging C).Provides engine config c requested where
  undisturbed := (Advances.engaging s C).undisturbed h.undisturbed
  isEngine := by
    cases h.isEngine with
    | given c' hown => exact .given c' hown
    | named h => exact .named h
    | missing => exact .missing
  class? := h.class?
  requested? := h.requested?

end Provides

namespace Engaged

variable {s t : Session} {id : Nat} {C : Composer} {c : EngineClass} {requested : Value}

lemma advances (h : s.Engaged id C c requested) (ht : s.Advances t) :
    t.Engaged id C c requested where
  undisturbed := ht.undisturbed h.undisturbed
  composer := ht.composer? h.composer
  own name := by rw [ht.attribute?, h.own]
  config := h.config
  repeats := h.repeats
  engine := by
    obtain ⟨i, hi, hown⟩ := h.engine
    exact ⟨i, hi, fun name => by rw [ht.attribute?, hown]⟩

/-- A composer that is made with the engine is one of its class. -/
lemma engaging {i : Nat} {r : Value} (h : s.Undisturbed)
    (hown : ∀ name, s.attribute? (.object i) name = none)
    (hr : r.isTruthy = c.repeatsFor requested) :
    (s.engaging ⟨c.engine i, .config requested, r⟩).Engaged s.composers.size
      ⟨c.engine i, .config requested, r⟩ c requested where
  undisturbed := (Advances.engaging s _).undisturbed h
  composer := s.getElem?_engaging _
  own name := h.composers _ (Nat.le_refl _) name
  config := rfl
  repeats := hr
  engine := ⟨i, rfl, hown⟩

/-- The engine and the configuration of a composer can be given in their turn. -/
lemma provides (h : s.Engaged id C c requested) : s.Provides C.engine C.config c requested := by
  obtain ⟨i, hi, hown⟩ := h.engine
  rw [hi, h.config]
  exact ⟨h.undisturbed, .given c hown, rfl, rfl⟩

end Engaged

end Session

/-! ### Making a composer -/

open Session

namespace Registry

/-- Why an engine of a name is not there. -/
def notFound (r : Registry) (name : Text) : Fault :=
  match texts 0 r.names with
  | .ok available => .unknownEngine name available
  | .error (place, type) => .notName place type

/-- What was found stays where it is. -/
lemma find?_lookUp_of_some {r : Registry} {name : Value} {c : EngineClass}
    (h : (r.lookUp name).find? name = some c) :
    ((r.lookUp name).lookUp name).find? name = some c := by
  rw [lookUp, if_pos (by rw [h]; rfl), h]

/-- What was not found is not there later either. -/
lemma find?_lookUp_loadBundled {r : Registry} {name : Value}
    (h : (r.lookUp name).find? name = none) : (r.loadBundled.lookUp name).find? name = none := by
  rw [lookUp_of_not_found h] at h
  rw [lookUp, h, if_neg (by simp), loadBundled_loadBundled, h]

end Registry

section Making

variable (ev : Evaluator) {s : Session} {engine config requested : Value} {c : EngineClass}

lemma unhashable?_of_text {name : Value} (h : name.text?.isSome = true) :
    name.unhashable? = none := by
  cases name <;> first | rfl | simp [Value.text?] at h

lemma exec_engineNamed {name : Value} (ht : name.text?.isSome = true)
    (h : (s.registry.lookUp name).find? name = some c) :
    (engineNamed name).exec ev s = (.ok (c.engine s.serial),
      { s with registry := s.registry.lookUp name, serial := s.serial + 1 }) := by
  unfold engineNamed
  simp only [unhashable?_of_text ht]
  rw [exec_bind_ok (exec_modify ev s _), exec_bind_ok (Run.exec_get ev _)]
  dsimp only
  rw [h]
  rfl

lemma exec_engineNamed_unknown {name : Value} (ht : name.text?.isSome = true)
    (h : (s.registry.lookUp name).find? name = none) :
    (engineNamed name).exec ev s =
      (.error ((s.registry.lookUp name).notFound (name.shown s.loggerWritten)),
        { s with registry := s.registry.lookUp name }) := by
  unfold engineNamed Registry.notFound
  simp only [unhashable?_of_text ht]
  rw [exec_bind_ok (exec_modify ev s _), exec_bind_ok (Run.exec_get ev _)]
  dsimp only
  rw [h]
  rcases Registry.texts 0 (s.registry.lookUp name).names with ⟨place, type⟩ | available <;> rfl

/-- What is no engine is looked up under its name. -/
lemma exec_resolveEngine_named {name : Value} (hn : s.engineMeant engine = name)
    (ht : name.text?.isSome = true) :
    (Composer.resolveEngine engine).exec ev s = (engineNamed name).exec ev s := by
  unfold engineMeant at hn
  unfold Composer.resolveEngine
  cases hnull : engine.isNull with
  | true =>
    rw [hnull, if_pos rfl] at hn
    have hsetting : (Value.ofSetting <$> setting .engine).exec ev s = (.ok name, s) := by
      rw [← hn]
      rfl
    rw [if_pos rfl, exec_bind_ok hsetting]
    beta_reduce
    rw [if_pos ht]
  | false =>
    rw [hnull, if_neg (by simp)] at hn
    rw [if_neg (by simp), hn, exec_bind_ok (exec_pure ev s name)]
    beta_reduce
    rw [if_pos ht]

/-- The engine that is meant is found, and it is meant again afterwards. -/
lemma exec_resolveEngine (h : s.Provides engine config c requested) :
    ∃ id t, (Composer.resolveEngine engine).exec ev s = (.ok (c.engine id), t) ∧
      (∀ name, t.attribute? (.object id) name = none) ∧ s.Advances t ∧
      t.composers = s.composers ∧ t.Provides engine config c requested := by
  rcases h.isEngine.elim with ⟨c', id, rfl, hown, hc⟩ | ⟨name, hn, ht, hc⟩
  · -- an engine is given
    obtain rfl : c' = c := Option.some.inj (hc.symm.trans h.class?)
    exact ⟨id, s, rfl, hown, .refl s, rfl, h⟩
  · -- an engine is looked up
    have hfind := hc.symm.trans h.class?
    let t : Session := { s with registry := s.registry.lookUp name, serial := s.serial + 1 }
    have hst : s.Advances t := ⟨#[], s.registry.lookUp name, s.serial + 1, s.taken,
      Nat.le_add_right .., by simpa using .refl t⟩
    have hengine : t.IsEngine engine := by
      cases h.isEngine with
      | given c' hown => exact .given c' hown
      | named h => exact .named h
      | missing => exact .missing
    have hclass : t.class? engine = some c := by
      rcases hengine.elim with ⟨c', i, rfl, -, -⟩ | ⟨name', hn', -, hc'⟩
      · exact h.class?
      · obtain rfl : name = name' := hn.symm.trans hn'
        rw [hc']
        exact Registry.find?_lookUp_of_some hfind
    refine ⟨s.serial, t, ?_, fun name => ?_, hst, rfl,
      ⟨hst.undisturbed h.undisturbed, hengine, hclass, h.requested?⟩⟩
    · rw [exec_resolveEngine_named ev hn ht, exec_engineNamed ev ht hfind]
    · rw [hst.attribute?, Session.attribute?, h.undisturbed.unattached _ (Nat.le_refl _)]
      rfl

/-- Without an engine of the name nothing but the registry changes. -/
lemma exec_resolveEngine_unknown (h : s.IsEngine engine) (hc : s.class? engine = none) :
    (Composer.resolveEngine engine).exec ev s =
      (.error (s.registry.loadBundled.notFound ((s.engineMeant engine).shown s.loggerWritten)),
        { s with registry := s.registry.loadBundled }) := by
  rcases h.elim with ⟨c, id, rfl, -, h⟩ | ⟨name, hn, ht, h⟩
  · cases h.symm.trans hc
  · have hfind := h.symm.trans hc
    rw [exec_resolveEngine_named ev hn ht, exec_engineNamed_unknown ev ht hfind,
      Registry.lookUp_of_not_found hfind, hn]

/-- Once the engine is found, a composer is made with it. -/
lemma exec_make_of_resolved {i : Nat} {t : Session}
    (hresolve : (Composer.resolveEngine engine).exec ev s = (.ok (c.engine i), t))
    (hown : ∀ name, t.attribute? (.object i) name = none)
    (h : t.Provides engine config c requested) :
    ∃ C u, (Composer.make engine config).exec ev s = (.ok t.composers.size, u.engaging C) ∧
      (u.engaging C).Engaged t.composers.size C c requested ∧ t.Evolves u := by
  obtain ⟨r, u, hrepeats, hr, hu⟩ := exec_resolveRequested ev c i requested h.undisturbed.warns
  let C : Composer := ⟨c.engine i, .config requested, r⟩
  have htu : t.Evolves u := .of_logged hu
  have hsize : u.composers.size = t.composers.size := by
    obtain ⟨d, rs, rfl⟩ := hu
    rfl
  refine ⟨C, u, ?_, ?_, htu⟩
  · have hrequested := h.requested?
    unfold Composer.make
    rw [exec_bind_ok hresolve, ← hsize]
    unfold requested? at hrequested
    split at hrequested <;> cases hrequested <;> exact exec_bind_ok hrepeats
  · rw [← hsize]
    refine .engaging ((Advances.of_evolves htu).undisturbed h.undisturbed) (fun name => ?_) hr
    rw [(Advances.of_evolves htu).attribute?, hown]

/-- A composer is made for the engine that is meant and for what is asked for. -/
lemma exec_engage (h : s.Provides engine config c requested) :
    ∃ C t, (Composer.make engine config).exec ev s = (.ok s.composers.size, t) ∧
      t.Engaged s.composers.size C c requested ∧ s.Advances t ∧
      t.Provides engine config c requested := by
  obtain ⟨i, t, hresolve, hown, hst, hsize, ht⟩ := exec_resolveEngine ev h
  obtain ⟨C, u, hmake, hC, htu⟩ := exec_make_of_resolved ev hresolve hown ht
  rw [hsize] at hmake hC
  have hsu : s.Advances (u.engaging C) :=
    (hst.trans (.of_evolves htu)).trans (.engaging u C)
  exact ⟨C, u.engaging C, hmake, hC, hsu, (ht.of_evolves htu).engaging C⟩

/-- With the engine of a composer another one is made, and the registry stays as it is. -/
lemma Session.Engaged.exec_engage {id : Nat} {C : Composer} (h : s.Engaged id C c requested) :
    ∃ D t, (Composer.make C.engine C.config).exec ev s =
        (.ok s.composers.size, t.engaging D) ∧
      (t.engaging D).Engaged s.composers.size D c requested ∧ s.Evolves t := by
  obtain ⟨i, he, hown⟩ := h.engine
  have hresolve : (Composer.resolveEngine C.engine).exec ev s = (.ok (c.engine i), s) := by
    rw [he]
    rfl
  exact exec_make_of_resolved ev hresolve hown h.provides

/-- Without an engine of the name no composer is made. -/
lemma exec_make_unknown (config : Value) (h : s.IsEngine engine) (hc : s.class? engine = none) :
    (Composer.make engine config).exec ev s =
      (.error (s.registry.loadBundled.notFound ((s.engineMeant engine).shown s.loggerWritten)),
        { s with registry := s.registry.loadBundled }) := by
  unfold Composer.make
  rw [exec_bind_error (exec_resolveEngine_unknown ev h hc)]

/-- The engine of a composer does what plans say, or refuses to repeat items. -/
lemma Session.Engaged.serves {id : Nat} {C : Composer} (h : s.Engaged id C c requested) :
    Serves ev id C (c.refusal s) (fun v p => c.kind.Made s.serial p v) fun _ => s.Evolves := by
  obtain ⟨i, he, hown⟩ := h.engine
  have hs : s.Genuine id i :=
    ⟨h.own, fun p => hown p.method, h.undisturbed.logs, h.undisturbed.warns⟩
  exact serves_engine ev h.composer he hs h.undisturbed.unattached

/-- The engine of a composer is asked, unless a script has put something in the place of the
operation. -/
lemma Session.Engaged.exec_asked {id : Nat} {C : Composer} (h : s.Engaged id C c requested)
    {operation : String}
    (hop : ∀ i, (c.engine i).hasMethod operation = true ∧ (c.engine i).constant? operation = none)
    (operands : Run Arguments) :
    (do Run.operate (← Run.composer id).engine operation operands).exec ev s =
      (operands >>= c.operate operation).exec ev s := by
  obtain ⟨i, he, hown⟩ := h.engine
  obtain ⟨hmethod, hconstant⟩ := hop i
  have hinherent : (inherent? (c.engine i) operation).exec ev s = (.ok none, s) := by
    rw [← hconstant]
    rfl
  have hfield := exec_field_method hinherent (hown _) hmethod
  rw [exec_bind_ok (exec_composer ev h.composer), he]
  unfold Run.operate
  rw [exec_bind_ok hfield]
  rfl

/-- What a composer makes of a slot. -/
lemma Session.Engaged.exec_composeSlot {id : Nat} {C : Composer} (h : s.Engaged id C c requested)
    (z : Slot) : ∃ x t, (Composer.compose id z.toValue).exec ev s = (Value.list <$> x, t) ∧
      Agrees (List.Forall₂ fun v p => c.kind.Made s.serial p v) x z.items := by
  obtain ⟨x, t, hrun, hx, -⟩ :=
    @Serves.exec_composeSlot _ _ _ _ _ _ [] _ (h.serves ev) z (.refl s)
  have hown : s.replaced? (.composer id) "compose_slot" = none := h.own _
  refine ⟨x, t, ?_, hx⟩
  change (callMethodOr (.composer id) "compose_slot" _ _).exec ev s = _
  rw [exec_callMethodOr hown, exec_bind, hrun]
  cases x <;> rfl

/-- What a composer makes of a group. -/
lemma Session.Engaged.exec_composeGroup {id : Nat} {C : Composer}
    (h : s.Engaged id C c requested) (f : Frame) (listed : Bool) (ds : List Draft) :
    ∃ x t, (Composer.composeGroup id (f.holding listed (Draft.toValues ds))).exec ev s = (x, t) ∧
      Agrees (fun v p => c.kind.Made s.serial p v) x
        (Draft.made (c.refusal s) (c.repeatsFor requested) f ds) ∧
      s.Evolves t := by
  obtain ⟨x, t, hrun, hx, ht⟩ :=
    @Serves.exec_composeDraft _ _ _ _ _ _ [] _ (h.serves ev) f listed ds (.refl s)
  rw [h.repeats] at hx
  exact ⟨x, t, hrun, hx, ht⟩

lemma Session.Engaged.exec_compose_group {id : Nat} {C : Composer}
    (h : s.Engaged id C c requested) (f : Frame) (listed : Bool) (ds : List Draft) :
    (Composer.compose id (f.holding listed (Draft.toValues ds))).exec ev s =
      (Composer.composeGroup id (f.holding listed (Draft.toValues ds))).exec ev s := by
  have hown : s.replaced? (.composer id) "compose_group" = none := h.own _
  change (callMethodOr (.composer id) "compose_group" _ _).exec ev s = _
  rw [exec_callMethodOr hown]

end Making

end LayoutTree
