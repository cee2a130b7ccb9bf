import LayoutTree.Proofs.Compose.Equivalence
import LayoutTree.Proofs.Descriptor.Equality

/-!
Composing with an engine of any class. What it makes of a plan is known up to identities, and
so are two values equal that it makes of plans with equal values in them.
-/

namespace LayoutTree

open Run

/-! ### Plans with equal values -/

/-- The entries stand under the same keys in the same order, and their values are equal. -/
def Fields.Alike (es fs : Fields) : Prop :=
  List.Forall₂ (fun e f => e.1 = f.1 ∧ e.2.same f.2 = true) es fs

namespace Fields.Alike

variable {es fs : Fields}

lemma put (h : es.Alike fs) (key : Text) {v w : Value} (hv : v.same w = true) :
    (es.put key v).Alike (fs.put key w) := by
  induction h with
  | nil => exact .cons ⟨rfl, hv⟩ .nil
  | @cons e f es fs he h ih =>
    rw [Fields.put, Fields.put, he.1]
    split
    · exact .cons ⟨rfl, hv⟩ h
    · exact .cons he ih

lemma same_dict (h : es.Alike fs) (i j : Nat) : (Value.dict i es).same (.dict j fs) = true := by
  have hall : ∀ all, (Value.compareEntries all es fs).1 = true := by
    intro all
    induction h with
    | nil => exact Value.compareEntries_nil all []
    | @cons e f es fs he h ih =>
      rw [Value.compareEntries_cons_cons, if_pos he.1, ih]
      simp [he.2]
  rw [Value.same_dict, hall, List.Forall₂.length_eq h]
  simp

end Fields.Alike

lemma Value.sameAll_replicate {v w : Value} (h : v.same w = true) (n : Nat) :
    sameAll (List.replicate n v) (List.replicate n w) = true := by
  induction n with
  | zero => rfl
  | succ n ih => simp [List.replicate_succ, h, ih]

namespace Plan

mutual

lemma Like.alike_entries {p q : Plan} (h : p.Like q) : p.entries.Alike q.entries := by
  cases h with
  | item hz =>
    exact .cons ⟨rfl, by simp⟩ (.cons ⟨rfl, by simpa [Descriptor.same_ofSize] using hz⟩ .nil)
  | group d hz hs =>
    refine .cons ⟨rfl, by simp⟩ (.cons ⟨rfl, by simp⟩
      (.cons ⟨rfl, by simpa [Descriptor.same_ofSize] using hz⟩ (.cons ⟨rfl, ?_⟩ .nil)))
    rw [Value.same_list]
    exact AllLike.sameAll_descriptors hs
  | repeated d n hz h =>
    refine .cons ⟨rfl, by simp⟩ (.cons ⟨rfl, by simp⟩
      (.cons ⟨rfl, by simpa [Descriptor.same_ofSize] using hz⟩ (.cons ⟨rfl, ?_⟩ .nil)))
    rw [Value.same_list]
    exact Value.sameAll_replicate ((Like.alike_entries h).same_dict 0 0) n
  | insets h hi => exact (Like.alike_entries h).put _ (by rwa [Descriptor.same_ofInsets])
  | edges h he => exact (Like.alike_entries h).put _ (by rwa [Descriptor.same_ofEdges])
  | spacing h hg => exact (Like.alike_entries h).put _ (by rwa [Descriptor.same_ofSpacing])

lemma AllLike.sameAll_descriptors {ps qs : List Plan} (h : AllLike ps qs) :
    Value.sameAll (descriptors ps) (descriptors qs) = true := by
  cases h with
  | nil => rfl
  | cons h hs =>
    rw [descriptors, descriptors, Value.sameAll_cons_cons, (Like.alike_entries h).same_dict,
      AllLike.sameAll_descriptors hs]
    rfl

end

end Plan

/-! ### What engines make -/

/-- An engine of the kind makes such a value of a plan, with identities from `base` on. -/
def EngineKind.Made (base : Nat) : EngineKind → Plan → Value → Prop
  | .model => Plan.Modelled base
  | .descriptor => fun p v => v.bare = p.descriptor
  | .trace _ => fun p v => v = p.trace

/-- Plans with equal values in them become equal values. -/
lemma EngineKind.same_of_like {kind : EngineKind} {base base' : Nat} {p q : Plan} {v w : Value}
    (h : p.Like q) (hv : kind.Made base p v) (hw : kind.Made base' q w) : v.same w = true := by
  cases kind with
  | model => exact h.same_modelled hv hw
  | descriptor =>
    rw [← Value.same_bare, hv, hw]
    exact h.alike_entries.same_dict 0 0
  | trace implements =>
    rw [hv, hw]
    exact h.same_trace

namespace EngineClass

/-- Why an engine of the class refuses to repeat items, if it does. -/
def refusal (c : EngineClass) (s : Session) : Option Fault :=
  match c.kind with
  | .model => none
  | .trace true => none
  | _ => some (.cannotRepeat (c.label.shown s.loggerWritten))

end EngineClass

/-- The other session differs at most by identities that were given out, notes that were taken and
what was logged. -/
def Session.Evolves (s t : Session) : Prop :=
  ∃ n taken, s.serial ≤ n ∧ ({ s with serial := n, taken := taken } : Session).Logged t

namespace Session.Evolves

variable {s t u : Session}

lemma refl (s : Session) : s.Evolves s := ⟨s.serial, s.taken, Nat.le_refl _, .refl s⟩

lemma trans (h : s.Evolves t) (hu : t.Evolves u) : s.Evolves u := by
  obtain ⟨n, taken, hn, d, rs, rfl⟩ := h
  obtain ⟨m, taken', hm, d', rs', rfl⟩ := hu
  exact ⟨m, taken', Nat.le_trans hn hm, d', rs', rfl⟩

lemma of_logged (h : s.Logged t) : s.Evolves t := ⟨s.serial, s.taken, Nat.le_refl _, h⟩

lemma reserving (s : Session) {n : Nat} (hn : s.serial ≤ n) : s.Evolves (s.reserving n) :=
  ⟨n, s.taken, hn, .refl _⟩

end Session.Evolves

/-- What an engine of the class makes of a plan, or that it refuses to. -/
lemma EngineClass.exec_operate (ev : Evaluator) (c : EngineClass) {base : Nat} {s : Session}
    (hb : base ≤ s.serial) (hfresh : ∀ i, base ≤ i → s.attributesOf (.object i) = []) {p : Plan}
    {vs : List Value} (hp : p.Takes (fun v p => c.kind.Made base p v) vs)
    (hr : p.method = "make_repeated_group" → c.refusal s = none) :
    ∃ v t, (c.operate p.method ⟨vs, []⟩).exec ev s = (.ok v, t) ∧ c.kind.Made base p v ∧
      s.Evolves t := by
  obtain ⟨kind, label, supports⟩ := c
  cases kind with
  | model =>
    obtain ⟨v, n, hrun, hv, hn⟩ := exec_operate_model ev
      (c := ⟨.model, label, supports⟩) rfl hp hb hfresh
    exact ⟨v, _, hrun, hv, n, s.taken, hn, .refl _⟩
  | descriptor =>
    obtain ⟨v, n, hrun, hv, hn⟩ := makes_operate_descriptor ev
      (c := ⟨.descriptor, label, supports⟩) rfl hp (fun h => nomatch hr h) s
    exact ⟨v, _, hrun, hv, n, s.taken, hn, .refl _⟩
  | trace implements =>
    have hi : p.method = "make_repeated_group" → implements = true := by
      intro h
      cases implements with
      | true => rfl
      | false => cases hr h
    exact ⟨p.trace, _, exec_operate_trace hp hi s, rfl, s.serial, _, Nat.le_refl _, .refl _⟩

lemma EngineClass.exec_refused (ev : Evaluator) {c : EngineClass} {s : Session} {e : Fault}
    {R : Value → Plan → Prop} {p : Plan} {vs : List Value} (hp : p.Takes R vs)
    (hm : p.method = "make_repeated_group") (he : c.refusal s = some e) :
    (c.operate p.method ⟨vs, []⟩).exec ev s = (.error e, s) := by
  obtain ⟨kind, label, supports⟩ := c
  cases hp with
  | repeated d z n hv =>
    cases kind with
    | model => cases he
    | descriptor =>
      cases he
      rfl
    | trace implements =>
      cases implements with
      | true => cases he
      | false =>
        cases he
        rfl
  | _ => simp [Plan.method] at hm

/-- An engine of any class does what plans say, or refuses to repeat items. -/
lemma serves_engine (ev : Evaluator) {s : Session} {id engine : Nat} {c : EngineClass}
    {C : Composer} (hC : s.composers[id]? = some C) (he : C.engine = c.engine engine)
    (hs : s.Genuine id engine) (hu : s.Unattached) :
    Serves ev id C (c.refusal s) (fun v p => c.kind.Made s.serial p v) fun _ => s.Evolves where
  composes := by
    rintro ps _ ⟨n, taken, -, d, rs, rfl⟩
    exact ⟨hC, hs.composer, ⟨hs.logs.method, hs.logs.number⟩⟩
  logged ht hu := ht.trans (.of_logged hu)
  makes := by
    rintro ps t p vs ht hp hr
    have hown : t.attribute? (.object engine) p.method = none := by
      obtain ⟨n, taken, hn, d, rs, rfl⟩ := ht
      exact hs.engine p
    have hb : s.serial ≤ t.serial := by
      obtain ⟨n, taken, hn, d, rs, rfl⟩ := ht
      exact hn
    have hfresh : ∀ i, s.serial ≤ i → t.attributesOf (.object i) = [] := by
      obtain ⟨n, taken, hn, d, rs, rfl⟩ := ht
      exact hu
    have hnone : p.method = "make_repeated_group" → c.refusal t = none := by
      obtain ⟨n, taken, hn, d, rs, rfl⟩ := ht
      exact fun h => (hr h).2
    obtain ⟨v, u, hrun, hv, htu⟩ := c.exec_operate ev hb hfresh hp hnone
    rw [← Plan.exec_call ev hown, ← he] at hrun
    exact ⟨v, u, hrun, hv, ht.trans htu⟩
  refuses := by
    rintro ps t p vs e ht hp hm hrefusal
    have hown : t.attribute? (.object engine) p.method = none := by
      obtain ⟨n, taken, hn, d, rs, rfl⟩ := ht
      exact hs.engine p
    refine ⟨t, ?_, ht⟩
    rw [he, Plan.exec_call ev hown, EngineClass.exec_refused ev hp hm]
    obtain ⟨n, taken, hn, d, rs, rfl⟩ := ht
    exact hrefusal

/-- What an engine of any class makes of a group is what the group becomes with it. -/
lemma exec_composeWith_engine (ev : Evaluator) (engine : Nat) (c : EngineClass) (on : Option Bool)
    {s : Session} (hs : s.Genuine s.composers.size engine) (hu : s.Unattached) (f : Frame)
    (listed : Bool) (ds : List Draft) :
    ∃ r x t, (composeWith (c.engine engine) on (f.holding listed (Draft.toValues ds))).exec ev s =
        (x, t) ∧
      Agrees (fun v p => c.kind.Made s.serial p v) x
        (Draft.made (c.refusal s) (c.supports && on.getD true) f ds) ∧
      (s.engaging ⟨c.engine engine, .config (.ofBool? on), r⟩).Evolves t := by
  obtain ⟨r, u, hmake, hr, hu'⟩ := exec_make ev c engine on hs.warns
  have hR := serves_engine ev (s.getElem?_engaging ⟨c.engine engine, .config (.ofBool? on), r⟩) rfl
    (hs.engaging _) hu
  obtain ⟨x, t, hrun, hx, ht⟩ :=
    @Serves.exec_composeDraft _ _ _ _ _ _ [] _ hR f listed ds (.of_logged hu')
  rw [hr] at hx
  exact ⟨r, x, t, by rw [composeWith, exec_bind_ok hmake, hrun], hx, ht⟩

end LayoutTree
