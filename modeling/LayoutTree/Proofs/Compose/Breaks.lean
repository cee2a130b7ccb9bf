import LayoutTree.Proofs.Compose.Hosting
import LayoutTree.Proofs.Compose.Trace

/-!
Where composing breaks: at the first place of a draft that cannot be composed, after the calls of
what is complete there. This holds for any engine whose operations do not fail.
-/

namespace LayoutTree

open Run

/-- From a session, a composer asks its engine for the last calls of plans one by one, and nothing
else happens but that messages are logged. `R` tells the host objects that plans describe. -/
inductive Calls (ev : Evaluator) (C : Composer) (R : Value → Plan → Prop) (s : Session) :
    List Plan → Session → Prop
  | nil {t : Session} : s.Logged t → Calls ev C R s [] t
  | snoc {ps : List Plan} {t u w : Session} {p : Plan} {vs : List Value} {v : Value} :
      Calls ev C R s ps t → p.Takes R vs →
      (p.method = "make_repeated_group" → C.repeats.isTruthy) →
      (p.call C.engine vs).exec ev t = (.ok v, u) → R v p → u.Logged w →
      Calls ev C R s (ps ++ [p]) w

/-- Whatever calls it has served, the engine of a composer serves the next one. It lets the
composer and its logger be. -/
def Reliable (ev : Evaluator) (id : Nat) (C : Composer) (R : Value → Plan → Prop) (s : Session) :
    Prop :=
  ∀ {ps t p vs}, Calls ev C R s ps t → t.Composes id C → p.Takes R vs →
    (p.method = "make_repeated_group" → C.repeats.isTruthy) →
    ∃ v u, (p.call C.engine vs).exec ev t = (.ok v, u) ∧ R v p ∧ u.Composes id C

variable {ev : Evaluator} {id : Nat} {C : Composer} {R : Value → Plan → Prop} {s : Session}

lemma Calls.logged {ps : List Plan} {t u : Session} (h : Calls ev C R s ps t) (hu : t.Logged u) :
    Calls ev C R s ps u := by
  cases h with
  | nil ht => exact .nil (ht.trans hu)
  | snoc h hp hr hv hvp ht => exact .snoc h hp hr hv hvp (ht.trans hu)

/-- A reliable engine does what plans say, call by call. -/
lemma Reliable.realizes (h : Reliable ev id C R s) :
    Realizes ev id C R fun ps t => Calls ev C R s ps t ∧ t.Composes id C where
  composes hs := hs.2
  logged hs ht := ⟨hs.1.logged ht, hs.2.of_logged ht⟩
  makes hs hp hr := by
    obtain ⟨v, u, hv, hvp, hu⟩ := h hs.1 hs.2 hp hr
    exact ⟨v, u, hv, hvp, .snoc hs.1 hp hr hv hvp (.refl u), hu⟩

/-- What is known to hold after calls holds after any of them that the engine serves. -/
lemma Realizes.of_calls {Inv : List Plan → Session → Prop} (hR : Realizes ev id C R Inv)
    (hs : Inv [] s) {ps : List Plan} {t : Session} (h : Calls ev C R s ps t) : Inv ps t := by
  induction h with
  | nil ht => exact hR.logged hs ht
  | snoc h hp hr hv hvp hw ih =>
    obtain ⟨v, u, hrun, -, hu⟩ := hR.makes ih hp hr
    rw [hv] at hrun
    cases hrun
    exact hR.logged hu hw

lemma Realizes.reliable {Inv : List Plan → Session → Prop} (hR : Realizes ev id C R Inv)
    (hs : Inv [] s) : Reliable ev id C R s := by
  intro ps t p vs ht _ hp hr
  obtain ⟨v, u, hv, hvp, hu⟩ := hR.makes (hR.of_calls hs ht) hp hr
  exact ⟨v, u, hv, hvp, hR.composes hu⟩

/-- The model engine is reliable. -/
lemma reliable_model (ev : Evaluator) {engine : Nat} {c : EngineClass} (hc : c.kind = .model)
    (hC : s.composers[id]? = some C) (he : C.engine = c.engine engine)
    (hs : s.Genuine id engine) (hu : s.Unattached) :
    Reliable ev id C (fun v p => p.Modelled s.serial v) s :=
  (realizes_model ev hc hC he hs hu).reliable ⟨s.serial, Nat.le_refl _, .refl s⟩

/-- A trace engine that can repeat items where it is asked to is reliable. -/
lemma reliable_trace (ev : Evaluator) {engine : Nat} {implements supports : Bool} {label : Value}
    (hi : supports → implements) (hC : s.composers[id]? = some C)
    (he : C.engine = EngineClass.engine ⟨.trace implements, label, supports⟩ engine)
    (hr : C.repeats.isTruthy → supports) (hs : s.Genuine id engine) :
    Reliable ev id C (fun v p => v = p.trace) s :=
  (realizes_trace ev hi hC he hr hs).reliable (by simpa using .refl s)

/-- **Breaks**: with a reliable engine, and apart from the limits of memory, composing a group
succeeds exactly if no group in it is without children and all children are slots and groups. It
breaks at the first place where this is not so, and the message tells of that place. The calls made
are those of the trees that are complete by then: nothing for a group around the break and nothing
for what is to the right of it. -/
theorem compose_breaks (hs : s.Composes id C) (hC : Reliable ev id C R s) (f : Frame)
    (listed : Bool) (ds : List Draft) (hm : Draft.AllInMemory ds) :
    let d := Draft.group f listed ds
    ∃ x t, (Composer.composeGroup id d.toValue).exec ev s = (x, t) ∧
      ((∃ v, x = .ok v) ↔ d.Sound) ∧
      (¬ d.Sound → ∃ b, d.breaks.head? = some b ∧ x = .error b.fault ∧
        ∃ before after : Text, b.fault.message = before ++ b.told ++ after) ∧
      Calls ev C R s (d.completed.flatMap (Tree.calls C.repeats.isTruthy)) t := by
  intro d
  obtain ⟨x, t, hrun, hx, ht, -⟩ :=
    hC.realizes.exec_composeDraft f listed ds ⟨.nil (.refl s), hs⟩
  have hcalls : d.calls C.repeats.isTruthy = d.completed.flatMap (Tree.calls _) :=
    d.calls_eq_completed hm
  refine ⟨x, t, hrun, ⟨?_, fun hd => ?_⟩, fun hd => ?_, by rwa [List.nil_append, hcalls] at ht⟩
  · -- what is broken is not made
    rintro ⟨v, rfl⟩
    by_contra hd
    obtain ⟨b, -, hplan⟩ := Draft.exists_break f hm hd
    rw [hplan] at hx
    cases hx
  · -- what is sound is
    obtain ⟨p, hplan⟩ := Draft.exists_plan f hm hd
    rw [hplan] at hx
    cases hx
    exact ⟨_, rfl⟩
  · -- the first break is told
    obtain ⟨b, hb, hplan⟩ := Draft.exists_break f hm hd
    rw [hplan] at hx
    cases hx
    exact ⟨b, hb, rfl, b.exists_message⟩

/-- In a column two places break: an empty group within a row, and a fragment after the row. With
a trace engine and with the model engine the items of the two slots before the first one are made,
and no group. -/
theorem compose_breaks_twice :
    let z : LayoutSize := ⟨1, ⟨2, .absolute, .zero⟩, ⟨3, .absolute, .zero⟩⟩
    let slot (id : Nat) : Draft := .slot ⟨id, z, none, none, 2, by decide⟩
    let frame (id : Nat) (d : Direction) : Frame := ⟨id, z, some (.none 4), none, d, none⟩
    let d : Draft := .group (frame 5 .vertical) true [slot 6,
      .group (frame 7 .horizontal) false [slot 8, .group (frame 9 .vertical) false []],
      .stranger (.fragment 10 (.text "fragment") (.tuple [])) rfl, slot 11]
    let C (c : EngineClass) : Composer := ⟨c.engine 0, .config .null, .bool true⟩
    let s (c : EngineClass) := (Session.initial [] false).engaging (C c)
    let trace : EngineClass := ⟨.trace true, .text "t", true⟩
    (∃ t, (Composer.composeGroup 0 d.toValue).exec .none (s trace) =
        (.error (.emptyGroup "vertical"), t) ∧
      Calls .none (C trace) (fun v p => v = p.trace) (s trace) [.item z, .item z] t) ∧
    ∃ t, (Composer.composeGroup 0 d.toValue).exec .none (s .model) =
        (.error (.emptyGroup "vertical"), t) ∧
      Calls .none (C .model) (fun v p => p.Modelled (s .model).serial v) (s .model)
        [.item z, .item z] t := by
  intro z slot frame d C s trace
  have hs (c : EngineClass) : (s c).Genuine 0 0 := (Session.genuine_initial ..).engaging (C c)
  have htrace : Reliable .none 0 (C trace) (fun v p => v = p.trace) (s trace) :=
    reliable_trace .none (fun _ => rfl) rfl rfl (fun _ => rfl) (hs trace)
  have hmodel : Reliable .none 0 (C .model) (fun v p => p.Modelled (s .model).serial v)
      (s .model) :=
    reliable_model .none (c := .model) (C := C .model) rfl rfl rfl (hs .model) (fun _ _ => rfl)
  have hm : Draft.AllInMemory [slot 6,
      .group (frame 7 .horizontal) false [slot 8, .group (frame 9 .vertical) false []],
      .stranger (.fragment 10 (.text "fragment") (.tuple [])) rfl, slot 11] := by
    simp [Draft.AllInMemory, Draft.InMemory, Draft.allTrees, Draft.trees, slot, memoryLimit]
  have hd : ¬ d.Sound := by simp [d, Draft.Sound, Draft.AllSound]
  refine ⟨?_, ?_⟩
  · obtain ⟨x, t, hrun, -, hbreak, hcalls⟩ :=
      compose_breaks ((hs trace).composes rfl) htrace (frame 5 .vertical) true _ hm
    obtain ⟨b, hb, rfl, -⟩ := hbreak hd
    obtain rfl : Break.empty .vertical = b := Option.some.inj hb
    exact ⟨t, hrun, hcalls⟩
  · obtain ⟨x, t, hrun, -, hbreak, hcalls⟩ :=
      compose_breaks ((hs .model).composes rfl) hmodel (frame 5 .vertical) true _ hm
    obtain ⟨b, hb, rfl, -⟩ := hbreak hd
    obtain rfl : Break.empty .vertical = b := Option.some.inj hb
    exact ⟨t, hrun, hcalls⟩

end LayoutTree
