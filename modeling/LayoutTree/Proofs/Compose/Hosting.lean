import LayoutTree.Proofs.Compose.Making
import LayoutTree.Proofs.Construct

/-!
Composing with the model engine: which host objects plans describe.

A host object is determined by its plan up to identities, which are given out while it is made.
-/

namespace LayoutTree

open Run

lemma Value.eq_of_isHost {v : Value} (h : v.isHost = true) :
    (∃ id z i e, v = .item id z i e) ∨ ∃ id z d vs n i e g, v = .itemGroup id z d vs n i e g := by
  cases v with
  | item id z i e => exact .inl ⟨id, z, i, e, rfl⟩
  | itemGroup id z d vs n i e g => exact .inr ⟨id, z, d, vs, n, i, e, g, rfl⟩
  | _ => cases h

namespace Plan

mutual

/-- The model engine makes such a value of a plan, with an identity from `base` on. -/
inductive Modelled (base : Nat) : Plan → Value → Prop
  | item {id j : Nat} {z : LayoutSize} : base ≤ id →
      Modelled base (item z) (.item id z (.insets (.none j)) .null)
  | group {id j : Nat} {d : Direction} {z : LayoutSize} {ps : List Plan} {vs : List Value} :
      base ≤ id → AllModelled base ps vs →
      Modelled base (group d z ps) (.itemGroup id z d vs .null (.insets (.none j)) .null .null)
  | repeated {id j n : Nat} {d : Direction} {z : LayoutSize} {p : Plan} {v : Value} :
      base ≤ id → Modelled base p v →
      Modelled base (repeated d z p n)
        (.itemGroup id z d [v] (.int n) (.insets (.none j)) .null .null)
  | insetsItem {id k : Nat} {p : Plan} {i : Insets} {z : LayoutSize} {x e : Value} :
      base ≤ id → Modelled base p (.item k z x e) →
      Modelled base (insets p i) (.item id z (.insets i) e)
  | insetsGroup {id k : Nat} {p : Plan} {i : Insets} {z : LayoutSize} {d : Direction}
      {vs : List Value} {n x e g : Value} :
      base ≤ id → Modelled base p (.itemGroup k z d vs n x e g) →
      Modelled base (insets p i) (.itemGroup id z d vs n (.insets i) e g)
  | edgesItem {id k : Nat} {p : Plan} {e : EdgeSpacing} {z : LayoutSize} {i x : Value} :
      base ≤ id → Modelled base p (.item k z i x) →
      Modelled base (edges p e) (.item id z i e.toValue)
  | edgesGroup {id k : Nat} {p : Plan} {e : EdgeSpacing} {z : LayoutSize} {d : Direction}
      {vs : List Value} {n i x g : Value} :
      base ≤ id → Modelled base p (.itemGroup k z d vs n i x g) →
      Modelled base (edges p e) (.itemGroup id z d vs n i e.toValue g)
  | spacing {id k : Nat} {p : Plan} {g : Spacing} {z : LayoutSize} {d : Direction}
      {vs : List Value} {n i e x : Value} :
      base ≤ id → Modelled base p (.itemGroup k z d vs n i e x) →
      Modelled base (spacing p g) (.itemGroup id z d vs n i e (.spacing g))

inductive AllModelled (base : Nat) : List Plan → List Value → Prop
  | nil : AllModelled base [] []
  | cons {p : Plan} {v : Value} {ps : List Plan} {vs : List Value} :
      Modelled base p v → AllModelled base ps vs → AllModelled base (p :: ps) (v :: vs)

end

variable {base : Nat}

lemma AllModelled.of_forall₂ {ps : List Plan} {vs : List Value}
    (h : List.Forall₂ (fun v p => Modelled base p v) vs ps) : AllModelled base ps vs := by
  induction h with
  | nil => exact .nil
  | cons h _ ih => exact .cons h ih

lemma AllModelled.exists_append {ps qs : List Plan} {vs : List Value}
    (h : AllModelled base (ps ++ qs) vs) :
    ∃ us ws, vs = us ++ ws ∧ AllModelled base ps us ∧ AllModelled base qs ws := by
  induction ps generalizing vs with
  | nil => exact ⟨[], vs, rfl, .nil, h⟩
  | cons p ps ih =>
    cases h with
    | cons hv hvs =>
      obtain ⟨us, ws, rfl, hus, hws⟩ := ih hvs
      exact ⟨_ :: us, ws, rfl, .cons hv hus, hws⟩

lemma Modelled.isHost {p : Plan} {v : Value} (h : p.Modelled base v) : v.isHost = true := by
  cases h <;> rfl

lemma AllModelled.isHost {ps : List Plan} {vs : List Value} (h : AllModelled base ps vs) :
    ∀ v ∈ vs, v.isHost = true := by
  induction ps generalizing vs with
  | nil =>
    cases h
    simp
  | cons p ps ih =>
    cases h with
    | cons hp hps => simpa using ⟨hp.isHost, ih hps⟩

/-- What was made has an identity from `base` on. -/
lemma Modelled.identity {p : Plan} {v : Value} (h : p.Modelled base v) :
    ∃ id, base ≤ id ∧ v.identity? = some (.object id) := by
  cases h <;> exact ⟨_, by assumption, rfl⟩

/-- Only groups have space between their subitems. -/
lemma Modelled.eq_itemGroup {p : Plan} {v : Value} (h : p.Modelled base v)
    (hp : p.isGroup = true) : ∃ id z d vs n i e g, v = .itemGroup id z d vs n i e g := by
  cases h with
  | item => cases hp
  | insetsItem _ h =>
    obtain ⟨_, _, _, _, _, _, _, _, h⟩ := Modelled.eq_itemGroup h hp
    cases h
  | edgesItem _ h =>
    obtain ⟨_, _, _, _, _, _, _, _, h⟩ := Modelled.eq_itemGroup h hp
    cases h
  | _ => exact ⟨_, _, _, _, _, _, _, _, rfl⟩

/-! A copy with a field replaced is what configuring a host object makes of it. -/

lemma Modelled.exists_insets {p : Plan} {v : Value} (h : p.Modelled base v) (i : Insets)
    {id : Nat} (hid : base ≤ id) :
    ∃ w, Model.replaceField? (v.withId id) "content_insets" (.insets i) = some w ∧
      (p.insets i).Modelled base w := by
  rcases Value.eq_of_isHost h.isHost with ⟨k, z, x, e, rfl⟩ | ⟨k, z, d, vs, n, x, e, g, rfl⟩
  · exact ⟨_, rfl, .insetsItem hid h⟩
  · exact ⟨_, rfl, .insetsGroup hid h⟩

lemma Modelled.exists_edges {p : Plan} {v : Value} (h : p.Modelled base v) (e : EdgeSpacing)
    {id : Nat} (hid : base ≤ id) :
    ∃ w, Model.replaceField? (v.withId id) "edge_spacing" e.toValue = some w ∧
      (p.edges e).Modelled base w := by
  rcases Value.eq_of_isHost h.isHost with ⟨k, z, i, x, rfl⟩ | ⟨k, z, d, vs, n, i, x, g, rfl⟩
  · exact ⟨_, rfl, .edgesItem hid h⟩
  · exact ⟨_, rfl, .edgesGroup hid h⟩

lemma Modelled.exists_spacing {p : Plan} {v : Value} (h : p.Modelled base v)
    (hp : p.isGroup = true) (g : Spacing) {id : Nat} (hid : base ≤ id) :
    ∃ w, Model.replaceField? (v.withId id) "inter_item_spacing" (.spacing g) = some w ∧
      (p.spacing g).Modelled base w := by
  obtain ⟨k, z, d, vs, n, i, e, x, rfl⟩ := h.eq_itemGroup hp
  exact ⟨_, rfl, .spacing hid h⟩

end Plan

/-! ### Copies -/

section Copies

variable {ev : Evaluator} {s : Session} {v w x : Value} {name : String} {id : Nat}

/-- What has no attributes is copied with nothing but a new identity and the new field. -/
lemma exec_configured (hv : v.isHost = true) (hid : v.identity? = some (.object id))
    (ha : s.attributesOf (.object id) = [])
    (hw : Model.replaceField? (v.withId s.serial) name x = some w) :
    (Model.configured v name x).exec ev s = (.ok w, { s with serial := s.serial + 1 }) := by
  have hr : s.replaced? v "model_copy" = none := by
    rw [Session.replaced?, hid, Option.bind_some, Session.attribute?, ha]
    rfl
  have hf : (field v "model_copy").exec ev s = (.ok (.method v "model_copy"), s) :=
    exec_field_method (by cases v <;> first | rfl | cases hv) hr
      (by cases v <;> first | rfl | cases hv)
  have hcopy : (Model.copy v).exec ev s =
      (.ok (v.withId s.serial), { s with serial := s.serial + 1 }) := by
    have hnone : v.identity?.map
        (Session.attributesOf { s with serial := s.serial + 1 }) = some [] := by
      rw [hid, ← ha]
      rfl
    unfold Model.copy Run.fresh
    rw [exec_bind_ok (exec_modifyGet ev s _), exec_bind_ok (exec_get ev _)]
    dsimp only
    rw [hnone]
    rfl
  have hwith : (Model.copyWith v name x).exec ev s =
      (.ok w, { s with serial := s.serial + 1 }) := by
    unfold Model.copyWith
    rw [exec_bind_ok hcopy, hw]
    rfl
  unfold Model.configured
  rw [exec_bind_ok hf]
  exact hwith

end Copies

namespace EngineClass

variable {s : Session} {c : EngineClass} {p : Plan} {base : Nat}

/-- The model engine makes what a plan says and only takes new identities. -/
lemma exec_operate_model (ev : Evaluator) (hc : c.kind = .model) {vs : List Value}
    (hp : p.Takes (fun v p => p.Modelled base v) vs) (hb : base ≤ s.serial)
    (hfresh : ∀ i, base ≤ i → s.attributesOf (.object i) = []) :
    ∃ v n, (c.operate p.method ⟨vs, []⟩).exec ev s = (.ok v, { s with serial := n }) ∧
      p.Modelled base v ∧ s.serial ≤ n := by
  obtain ⟨kind, label, supports⟩ := c
  obtain rfl : kind = .model := hc
  cases hp with
  | item z => exact ⟨_, _, exec_construct_item ev s z, .item (by omega), by omega⟩
  | group d z hv =>
    rename_i vs ps
    have hall := Plan.AllModelled.of_forall₂ hv
    have hrun : (Model.makeGroup (.direction d) (.size z) (.list vs)).exec ev s =
        (construct "ItemGroup" (hostGroupFields (.size z) (.direction d) vs none)).exec ev s := by
      unfold Model.makeGroup
      rw [exec_bind_ok (exec_elements_list ev s vs)]
      rfl
    rw [exec_construct_itemGroup ev s z d hall.isHost none] at hrun
    exact ⟨_, _, hrun, .group (by omega) hall, by omega⟩
  | repeated d z n hv =>
    have hhost := exec_construct_itemGroup ev s z d
      (fun w hw => List.mem_singleton.1 hw ▸ hv.isHost) (some n)
    exact ⟨_, _, hhost, .repeated (by omega) hv, by omega⟩
  | insets i hv =>
    obtain ⟨id, hle, hid⟩ := hv.identity
    obtain ⟨w, hw, hmod⟩ := hv.exists_insets i hb
    exact ⟨w, _, exec_configured hv.isHost hid (hfresh id hle) hw, hmod, by omega⟩
  | edges e hv =>
    obtain ⟨id, hle, hid⟩ := hv.identity
    obtain ⟨w, hw, hmod⟩ := hv.exists_edges e hb
    exact ⟨w, _, exec_configured hv.isHost hid (hfresh id hle) hw, hmod, by omega⟩
  | spacing g hg hv =>
    obtain ⟨id, hle, hid⟩ := hv.identity
    obtain ⟨w, hw, hmod⟩ := hv.exists_spacing hg g hb
    exact ⟨w, _, exec_configured hv.isHost hid (hfresh id hle) hw, hmod, by omega⟩

end EngineClass

/-! ### Composing -/

/-- Nothing is attached to identities that are not given out yet. -/
def Session.Unattached (s : Session) : Prop :=
  ∀ i, s.serial ≤ i → s.attributesOf (.object i) = []

/-- The session with other identities free. -/
def Session.reserving (s : Session) (n : Nat) : Session := { s with serial := n }

/-- The other session differs at most by identities that were given out and by what was logged. -/
def Session.Grows (s t : Session) : Prop := ∃ n, s.serial ≤ n ∧ (s.reserving n).Logged t

lemma Session.Grows.refl (s : Session) : s.Grows s := ⟨s.serial, Nat.le_refl _, .refl s⟩

lemma Session.Grows.logged {s t u : Session} (h : s.Grows t) (hu : t.Logged u) : s.Grows u := by
  obtain ⟨n, hn, ht⟩ := h
  exact ⟨n, hn, ht.trans hu⟩

lemma Session.Grows.composers_eq {s t : Session} (h : s.Grows t) : t.composers = s.composers := by
  obtain ⟨n, -, d, rs, rfl⟩ := h
  rfl

/-- The model engine does what plans say, as long as nothing is attached to identities that are
not given out yet. -/
lemma realizes_model (ev : Evaluator) {s : Session} {id engine : Nat} {c : EngineClass}
    (hc : c.kind = .model) {C : Composer} (hC : s.composers[id]? = some C)
    (he : C.engine = c.engine engine) (hs : s.Genuine id engine) (hfresh : s.Unattached) :
    Realizes ev id C (fun v p => p.Modelled s.serial v) fun _ => s.Grows where
  composes := by
    rintro ps _ ⟨n, -, d, rs, rfl⟩
    exact ⟨hC, hs.composer, ⟨hs.logs.method, hs.logs.number⟩⟩
  logged ht hu := ht.logged hu
  makes := by
    rintro ps t p vs ⟨n, hn, d, rs, ht⟩ hp -
    have hown : t.attribute? (.object engine) p.method = none := by
      rw [ht]
      exact hs.engine p
    obtain ⟨v, m, hrun, hv, hm⟩ := EngineClass.exec_operate_model ev (s := t) hc hp
      (by rw [ht]; exact hn) (by rw [ht]; exact hfresh)
    rw [← Plan.exec_call ev hown, ← he] at hrun
    rw [ht] at hm hrun ⊢
    exact ⟨v, _, hrun, hv, m, Nat.le_trans hn hm, d, rs, rfl⟩

/-- What the model engine makes of a group is what its plan describes. -/
lemma agrees_model (ev : Evaluator) (engine : Nat) (on : Option Bool) {s : Session}
    {c : EngineClass} (hc : c.kind = .model) (hs : s.Genuine s.composers.size engine)
    (hu : s.Unattached) (f : Frame) (ts : List Tree) :
    Agrees (fun v p => p.Modelled s.serial v)
      ((composeWith (c.engine engine) on (f.toValue (Tree.toValues ts))).exec ev s).1
      (Tree.plan (c.supports && on.getD true) f ts) := by
  obtain ⟨r, x, t, hrun, hx, -⟩ := exec_composeWith ev c engine on hs
    (R := fun v p => p.Modelled s.serial v)
    (I := fun s _ => s.Grows) .refl
    (fun C he _ => realizes_model ev hc (s.getElem?_engaging C) he (hs.engaging C) hu) f ts
  rw [hrun]
  exact hx

end LayoutTree
