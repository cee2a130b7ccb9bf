import LayoutTree.Proofs.Compose.Engines
import Mathlib.Logic.Relation

/-!
Slots that are split into slots side by side, each with a part of the copies. What a group becomes
does not depend on how its copies are spread over slots, as long as all rows of copies can be made.
-/

namespace LayoutTree

/-! ### Slots of one configuration

What equals the same value is equal. -/

lemma Double.same_of_same {x y z : Double} (h : x.same z = true) (h' : y.same z = true) :
    x.same y = true := by
  simp only [same, Bool.or_eq_true, decide_eq_true_eq, Bool.and_eq_true] at *
  rcases h with rfl | h <;> rcases h' with rfl | h'
  · exact .inl rfl
  · exact .inr ⟨h'.2, h'.1⟩
  · exact .inr h
  · exact .inr ⟨h.1, h'.1⟩

lemma Dimension.same_of_same {x y z : Dimension} (h : x.same z = true) (h' : y.same z = true) :
    x.same y = true := by
  simp only [same, Bool.and_eq_true, decide_eq_true_eq] at *
  exact ⟨h.1.trans h'.1.symm, Double.same_of_same h.2 h'.2⟩

lemma LayoutSize.same_of_same {x y z : LayoutSize} (h : x.same z = true) (h' : y.same z = true) :
    x.same y = true := by
  simp only [same, Bool.and_eq_true] at *
  exact ⟨Dimension.same_of_same h.1 h'.1, Dimension.same_of_same h.2 h'.2⟩

lemma Spacing.same_of_same {x y z : Spacing} (h : x.same z = true) (h' : y.same z = true) :
    x.same y = true := by
  simp only [same, Bool.and_eq_true, decide_eq_true_eq] at *
  exact ⟨h.1.trans h'.1.symm, Double.same_of_same h.2 h'.2⟩

lemma Insets.same_of_same {x y z : Insets} (h : x.same z = true) (h' : y.same z = true) :
    x.same y = true := by
  simp only [same, Bool.and_eq_true] at *
  obtain ⟨⟨⟨ht, hl⟩, hb⟩, hr⟩ := h
  obtain ⟨⟨⟨ht', hl'⟩, hb'⟩, hr'⟩ := h'
  exact ⟨⟨⟨Double.same_of_same ht ht', Double.same_of_same hl hl'⟩, Double.same_of_same hb hb'⟩,
    Double.same_of_same hr hr'⟩

namespace Value

/-- What may be null equals null only where it is. -/
lemma same_of_same_ofOption {α : Type} {f : α → Value}
    (hf : ∀ a b c, (f a).same (f c) = true → (f b).same (f c) = true → (f a).same (f b) = true)
    (hn : ∀ a, (f a).same .null = false ∧ Value.null.same (f a) = false) {x y z : Option α}
    (h : (ofOption f x).same (ofOption f z) = true)
    (h' : (ofOption f y).same (ofOption f z) = true) :
    (ofOption f x).same (ofOption f y) = true := by
  cases x <;> cases y <;> cases z <;> simp_all [ofOption]
  exact hf _ _ _ h h'

lemma same_of_same_insets {x y z : Option Insets}
    (h : (ofOption .insets x).same (ofOption .insets z) = true)
    (h' : (ofOption .insets y).same (ofOption .insets z) = true) :
    (ofOption .insets x).same (ofOption .insets y) = true :=
  same_of_same_ofOption (by simpa using fun _ _ _ => Insets.same_of_same) (fun _ => ⟨rfl, rfl⟩) h h'

lemma same_of_same_spacing {x y z : Option Spacing}
    (h : (ofOption .spacing x).same (ofOption .spacing z) = true)
    (h' : (ofOption .spacing y).same (ofOption .spacing z) = true) :
    (ofOption .spacing x).same (ofOption .spacing y) = true :=
  same_of_same_ofOption (by simpa using fun _ _ _ => Spacing.same_of_same) (fun _ => ⟨rfl, rfl⟩)
    h h'

lemma same_of_same_edges {x y z : Option EdgeSpacing}
    (h : (ofOption EdgeSpacing.toValue x).same (ofOption EdgeSpacing.toValue z) = true)
    (h' : (ofOption EdgeSpacing.toValue y).same (ofOption EdgeSpacing.toValue z) = true) :
    (ofOption EdgeSpacing.toValue x).same (ofOption EdgeSpacing.toValue y) = true := by
  refine same_of_same_ofOption (fun a b c h h' => ?_) (fun _ => ⟨rfl, rfl⟩) h h'
  simp only [EdgeSpacing.toValue, same_edges, Bool.and_eq_true] at *
  exact ⟨same_of_same_spacing h.1 h'.1, same_of_same_spacing h.2.1 h'.2.1,
    same_of_same_spacing h.2.2.1 h'.2.2.1, same_of_same_spacing h.2.2.2 h'.2.2.2⟩

end Value

namespace Slot

lemma alike_of_alike {x y z : Slot} (h : x.alike z = true) (h' : y.alike z = true) :
    x.alike y = true := by
  simp only [alike, signature, Value.sameAll_cons_cons, Value.same_size, Bool.and_eq_true] at *
  exact ⟨LayoutSize.same_of_same h.1 h'.1, Value.same_of_same_insets h.2.1 h'.2.1,
    Value.same_of_same_edges h.2.2.1 h'.2.2.1, rfl⟩

lemma alike_symm {x y : Slot} (h : x.alike y = true) : y.alike x = true :=
  alike_of_alike (Tree.Slot.alike_self y) h

lemma alike_trans {x y z : Slot} (h : x.alike y = true) (h' : y.alike z = true) :
    x.alike z = true :=
  alike_of_alike h (alike_symm h')

lemma total_append (xs ys : List Slot) : total (xs ++ ys) = total xs + total ys := by
  simp [total]

lemma total_cons (z : Slot) (zs : List Slot) : total (z :: zs) = z.count + total zs := by
  simp [total]

end Slot

/-! ### Splitting -/

namespace Tree

/-- The trees of the second row are those of the first one with some slots split, at any depth:
instead of a slot there stand slots of its configuration that make as many copies together. -/
inductive Splits : List Tree → List Tree → Prop
  | nil : Splits [] []
  | slot {s : Slot} (zs : List Slot) {ts us : List Tree} :
      (∀ z ∈ zs, z.alike s = true) → Slot.total zs = s.count → Splits ts us →
      Splits (slot s :: ts) (zs.map slot ++ us)
  | group (f : Frame) {ts us ts' us' : List Tree} :
      Splits ts us → Splits ts' us' → Splits (group f ts :: ts') (group f us :: us')

namespace Splits

variable {ts us vs : List Tree}

/-- What slots are split into. -/
lemma of_slots {ss : List Slot} (h : Splits (ss.map Tree.slot ++ ts) vs) :
    ∃ zs us, vs = zs.map Tree.slot ++ us ∧ Slot.total zs = Slot.total ss ∧
      (∀ z ∈ zs, ∃ s ∈ ss, z.alike s = true) ∧ (∀ s ∈ ss, ∃ z ∈ zs, z.alike s = true) ∧
      Splits ts us := by
  induction ss generalizing vs with
  | nil => exact ⟨[], vs, rfl, rfl, by simp, by simp, h⟩
  | cons s ss ih =>
    cases h with
    | @slot _ ys _ us' hy htotal h =>
      obtain ⟨zs, us, rfl, hzs, hz, hs, hus⟩ := ih h
      obtain ⟨y, hmem⟩ : ∃ y, y ∈ ys := by
        rcases ys with _ | ⟨y, ys⟩
        · have := s.count_pos
          simp [Slot.total] at htotal
          omega
        · exact ⟨y, by simp⟩
      refine ⟨ys ++ zs, us, by simp, ?_, ?_, ?_, hus⟩
      · -- as many items in total
        rw [Slot.total_append, htotal, hzs]
        simp [Slot.total]
      · -- each part is alike to some slot
        intro z hmem
        rcases List.mem_append.1 hmem with hmem | hmem
        · exact ⟨s, by simp, hy z hmem⟩
        · obtain ⟨s', hs', hzs'⟩ := hz z hmem
          exact ⟨s', by simp [hs'], hzs'⟩
      · -- each slot is alike to some part
        intro s' hs'
        rcases List.mem_cons.1 hs' with rfl | hs'
        · exact ⟨y, by simp [hmem], hy y hmem⟩
        · obtain ⟨z, hz, hzs'⟩ := hs s' hs'
          exact ⟨z, by simp [hz], hzs'⟩

/-- Only slots are split into slots. -/
lemma exists_slots (h : Splits ts us) {zs : List Slot} (hu : us = zs.map Tree.slot) :
    ∃ ss : List Slot, ts = ss.map Tree.slot := by
  induction h generalizing zs with
  | nil => exact ⟨[], rfl⟩
  | @slot s ys ts us hy htotal h ih =>
    obtain ⟨-, ws, -, -, hws⟩ := List.append_eq_map_iff.1 hu
    obtain ⟨ss, rfl⟩ := ih hws.symm
    exact ⟨s :: ss, rfl⟩
  | group f h h' ih ih' =>
    rcases zs with _ | ⟨z, zs⟩ <;> cases hu

/-- Splitting again is splitting. -/
lemma trans (h : Splits ts us) (h' : Splits us vs) : Splits ts vs := by
  induction h generalizing vs with
  | nil => exact h'
  | @slot s ys ts us hy htotal h ih =>
    obtain ⟨zs, us', rfl, hzs, hz, -, hus⟩ := of_slots h'
    refine .slot zs (fun z hmem => ?_) (hzs.trans htotal) (ih hus)
    obtain ⟨y, hmem', hzy⟩ := hz z hmem
    exact Slot.alike_trans hzy (hy y hmem')
  | group f h₁ h₂ ih₁ ih₂ =>
    cases h' with
    | group _ h₁' h₂' => exact .group f (ih₁ h₁') (ih₂ h₂')

lemma isEmpty_eq (h : Splits ts us) : us.isEmpty = ts.isEmpty := by
  cases h with
  | nil => rfl
  | @slot s zs _ _ hz htotal h =>
    have := s.count_pos
    rcases zs with _ | ⟨z, zs⟩
    · simp [Slot.total] at htotal
      omega
    · rfl
  | group f h h' => rfl

end Splits

mutual

lemma Splits.cons_self (t : Tree) {ts us : List Tree} (h : Splits ts us) :
    Splits (t :: ts) (t :: us) := by
  cases t with
  | slot s => exact .slot [s] (by simp [Slot.alike_self]) (by simp [Slot.total]) h
  | group f vs => exact .group f (Splits.refl vs) h

lemma Splits.refl (ts : List Tree) : Splits ts ts := by
  cases ts with
  | nil => exact .nil
  | cons t ts => exact Splits.cons_self t (Splits.refl ts)

end

/-- However often slots are split, they are split at once. -/
lemma splits_of_reflTransGen {ts us : List Tree} (h : Relation.ReflTransGen Splits ts us) :
    Splits ts us := by
  induction h with
  | refl => exact .refl ts
  | tail _ h ih => exact ih.trans h

/-! ### Repetition -/

lemma mapM_slot?_eq_some_iff {ts : List Tree} {ss : List Slot} :
    ts.mapM slot? = some ss ↔ ts = ss.map slot := by
  induction ts generalizing ss with
  | nil => cases ss <;> simp
  | cons t ts ih =>
    cases t with
    | group f us => cases ss <;> simp [slot?]
    | slot s =>
      rw [List.mapM_cons]
      constructor
      · intro h
        rcases hts : ts.mapM slot? with _ | zs
        · simp [slot?, hts] at h
        · obtain rfl : s :: zs = ss := by simpa [slot?, hts] using h
          rw [ih.1 hts]
          rfl
      · intro h
        rcases ss with _ | ⟨z, zs⟩ <;> cases h
        simp [slot?, ih.2 rfl]

namespace Splits

variable {ts us : List Tree}

lemma repetition?_of_some (h : Splits ts us) {leaf : Plan} {n : Nat}
    (hr : repetition? ts = some (leaf, n)) :
    ∃ leaf', repetition? us = some (leaf', n) ∧ leaf'.Like leaf := by
  obtain ⟨s, ss, hs, hall, hn, rfl, rfl⟩ := repetition?_eq_some_iff.1 hr
  rw [mapM_slot?_eq_some_iff] at hs
  subst hs
  rw [← List.append_nil (List.map _ _)] at h
  obtain ⟨zs, us, rfl, htotal, hz, -, hus⟩ := of_slots h
  cases hus
  rcases zs with _ | ⟨z, zs⟩
  · have hpos := s.count_pos
    rw [Slot.total_cons] at htotal
    simp [Slot.total] at htotal
    omega
  have hzs : ∀ y ∈ z :: zs, y.alike s = true := by
    intro y hy
    obtain ⟨s', hs', hys⟩ := hz y hy
    exact Slot.alike_trans hys (hall s' hs')
  have hz := hzs z (by simp)
  refine ⟨z.leaf, repetition?_eq_some_iff.2 ⟨z, zs, ?_, fun y hy => ?_, hn, rfl, htotal.symm⟩,
    Slot.leaf_like hz⟩
  · exact mapM_slot?_eq_some_iff.2 (List.append_nil _)
  · exact Slot.alike_of_alike (hzs y hy) hz

lemma repetition?_of_none (h : Splits ts us) (hr : repetition? ts = none) :
    repetition? us = none := by
  by_contra hne
  obtain ⟨⟨leaf, n⟩, hu⟩ := Option.ne_none_iff_exists'.1 hne
  obtain ⟨z, zs, hzs, hall, hn, rfl, rfl⟩ := repetition?_eq_some_iff.1 hu
  rw [mapM_slot?_eq_some_iff] at hzs
  obtain ⟨ss, rfl⟩ := h.exists_slots hzs
  rw [← List.append_nil (List.map _ ss)] at h
  obtain ⟨ys, us', hys, htotal, -, hs, hus⟩ := of_slots h
  cases hus
  rw [hzs, List.append_nil] at hys
  obtain rfl : z :: zs = ys := List.map_injective_iff.2 (fun _ _ => Tree.slot.inj) hys
  rcases ss with _ | ⟨s, ss⟩
  · rw [htotal] at hn
    cases hn
  have halike : ∀ s' ∈ s :: ss, z.alike s' = true := by
    intro s' hs'
    obtain ⟨y, hy, hys⟩ := hs s' hs'
    exact Slot.alike_trans (Slot.alike_symm (hall y hy)) hys
  have hsome : repetition? ((s :: ss).map Tree.slot) = some (s.leaf, Slot.total (s :: ss)) := by
    refine repetition?_eq_some_iff.2 ⟨s, ss, ?_, fun s' hs' => ?_, htotal ▸ hn, rfl, rfl⟩
    · exact mapM_slot?_eq_some_iff.2 rfl
    · exact Slot.alike_trans (Slot.alike_symm (halike s' hs')) (halike s (by simp))
  rw [hr] at hsome
  cases hsome

end Splits

end Tree

/-! ### Rows of copies -/

/-- The outcome is that a row of copies cannot be made, because a list cannot have so many elements
or memory does not hold them. -/
def Overflows {α : Type} (x : Except Fault α) : Prop :=
  x = .error .countTooLarge ∨ x = .error .outOfMemory

lemma Overflows.bind {α β : Type} {x : Except Fault α} (h : Overflows x)
    (f : α → Except Fault β) : Overflows (x >>= f) := by
  rcases h with rfl | rfl
  · exact .inl rfl
  · exact .inr rfl

/-- Two outcomes agree, unless the second one is that a row of copies cannot be made. -/
def AgreesOr {α β : Type} (A : α → β → Prop) (x : Except Fault α) (y : Except Fault β) : Prop :=
  Agrees A x y ∨ Overflows y

lemma AgreesOr.bind {α β γ δ : Type} {A : α → β → Prop} {B : γ → δ → Prop} {x : Except Fault α}
    {y : Except Fault β} {f : α → Except Fault γ} {g : β → Except Fault δ} (h : AgreesOr A x y)
    (hf : ∀ a b, A a b → AgreesOr B (f a) (g b)) : AgreesOr B (x >>= f) (y >>= g) := by
  rcases h with h | h
  · cases h with
    | ok h => exact hf _ _ h
    | error e => exact .inl (.error e)
  · exact .inr (h.bind g)

/-- Lists of one length fit into memory together. -/
lemma AgreesOr.appended {x y : Except Fault (List Plan)}
    {rest rest' : Nat → Except Fault (List Plan)} (h : AgreesOr Plan.AllLike x y) (held : Nat)
    (hr : ∀ n, AgreesOr Plan.AllLike (rest n) (rest' n)) :
    AgreesOr Plan.AllLike (appended held x rest) (appended held y rest') := by
  have hroom : AgreesOr Plan.AllLike (x >>= extending held) (y >>= extending held) := by
    refine h.bind fun xs ys hxs => .inl ?_
    unfold extending
    rw [hxs.length_eq]
    split
    · exact .ok hxs
    · exact .error _
  refine hroom.bind fun xs ys hxs => ?_
  rw [hxs.length_eq]
  exact (hr _).bind fun _ _ hzs => .inl (.ok (hxs.append hzs))

namespace Slot

/-- Where there is no room for the items of a slot, they cannot be put at the end of a list. -/
lemma overflows_items {s : Slot} {held : Nat} (h : memoryLimit ≤ held + s.count) :
    Overflows (s.items >>= extending held) := by
  rcases hx : s.items >>= extending held with e | xs
  · rcases bind_extending_eq_error hx with hitems | rfl
    · rcases items_eq_error hitems with rfl | rfl
      · exact .inl rfl
      · exact .inr rfl
    · exact .inr rfl
  · obtain ⟨hitems, hroom⟩ := bind_extending_eq_ok_iff.1 hx
    rw [items_eq hitems, List.length_replicate] at hroom
    omega

end Slot

namespace Tree

variable (refusal : Option Fault) (repeats : Bool)

/-- Slots that fit become the copies that they stand for. -/
lemma allOutcomes_slots {held : Nat} {zs : List Slot} (hz : held + Slot.total zs < memoryLimit)
    (us : List Tree) :
    Draft.allOutcomes refusal repeats held (drafts (zs.map slot ++ us)) =
      ((zs.flatMap fun z => List.replicate z.count z.leaf) ++ ·) <$>
        Draft.allOutcomes refusal repeats (held + Slot.total zs) (drafts us) := by
  induction zs generalizing held with
  | nil => simp [Slot.total]
  | cons z zs ih =>
    rw [Slot.total_cons] at hz ⊢
    have hitems : (z.items >>= extending held) = .ok (List.replicate z.count z.leaf) :=
      bind_extending_eq_ok_iff.2
        ⟨Slot.items_of_lt (by omega), by rw [List.length_replicate]; omega⟩
    rw [List.map_cons, List.cons_append, drafts, draft, Draft.allOutcomes, Draft.outcome,
      appended_of_ok hitems, List.length_replicate, ih (by omega), ← Nat.add_assoc]
    cases Draft.allOutcomes refusal repeats (held + z.count + Slot.total zs) (drafts us) with
    | error e => rfl
    | ok xs =>
      change Except.ok (_ ++ (_ ++ xs)) = Except.ok (_ ++ xs)
      rw [List.flatMap_cons, List.append_assoc]

namespace Splits

variable {refusal repeats} {ts us : List Tree}

/-- The host group of split slots is like that of the slots, and refused if that is. -/
lemma agrees_granted (h : Splits ts us) (f : Frame) {xs ys : List Plan}
    (hx : Plan.AllLike xs ys) :
    Agrees Plan.Like
      (f.granted refusal (if repeats then repetition? us else none) xs)
      (f.granted refusal (if repeats then repetition? ts else none) ys) := by
  have hlisted : Agrees Plan.Like (f.granted refusal none xs) (f.granted refusal none ys) := by
    rw [f.granted_of_none, f.granted_of_none]
    exact .ok (.group f.direction (by simp) hx)
  cases repeats with
  | false => exact hlisted
  | true =>
    rw [if_pos rfl, if_pos rfl]
    cases hr : repetition? ts with
    | none =>
      rw [h.repetition?_of_none hr]
      exact hlisted
    | some leaf =>
      obtain ⟨leaf, n⟩ := leaf
      obtain ⟨leaf', hr', hlike⟩ := h.repetition?_of_some hr
      rw [hr']
      cases refusal with
      | some e => exact .error e
      | none => exact .ok (.repeated f.direction n (by simp) hlike)

lemma agreesOr_groupOutcome (h : Splits ts us) (f : Frame)
    (hs : AgreesOr Plan.AllLike (Draft.allOutcomes refusal repeats 0 (drafts us))
      (Draft.allOutcomes refusal repeats 0 (drafts ts))) :
    AgreesOr Plan.Like (Draft.made refusal repeats f (drafts us))
      (Draft.made refusal repeats f (drafts ts)) := by
  unfold Draft.made Draft.groupOutcome
  rw [isEmpty_drafts, isEmpty_drafts, h.isEmpty_eq, allTrees_drafts, allTrees_drafts]
  by_cases he : ts.isEmpty
  · rw [if_pos he, if_pos he]
    exact .inl (.error _)
  rw [if_neg he, if_neg he]
  exact hs.bind fun xs ys hx => .bind (.inl (h.agrees_granted f hx)) fun p q hp =>
    .inl (.ok (f.plan_like hp))

/-- Splitting slots changes nothing but where a row of copies cannot be made. -/
lemma agreesOr_allOutcomes (h : Splits ts us) (held : Nat) :
    AgreesOr Plan.AllLike (Draft.allOutcomes refusal repeats held (drafts us))
      (Draft.allOutcomes refusal repeats held (drafts ts)) := by
  induction h generalizing held with
  | nil => exact .inl (.ok .nil)
  | @slot s zs ts us hz htotal h ih =>
    rw [drafts, draft, Draft.allOutcomes, Draft.outcome]
    by_cases hroom : held + s.count < memoryLimit
    · -- There is room for the copies of the slot, so there is for those of its parts.
      have hitems : (s.items >>= extending held) = .ok (List.replicate s.count s.leaf) :=
        bind_extending_eq_ok_iff.2
          ⟨Slot.items_of_lt (by omega), by rwa [List.length_replicate]⟩
      have hrow := allLike_replicate hz
      rw [htotal] at hrow
      rw [allOutcomes_slots refusal repeats (htotal ▸ hroom), htotal, appended_of_ok hitems,
        List.length_replicate]
      exact (ih _).bind fun xs ys hx => .inl (.ok (hrow.append hx))
    · have hover := @Slot.overflows_items s held (by omega)
      exact .inr (hover.bind _)
  | @group f ts us ts' us' h h' ih ih' =>
    rw [drafts, draft, drafts, draft, Draft.allOutcomes, Draft.outcome, Draft.allOutcomes,
      Draft.outcome]
    refine AgreesOr.appended ?_ held ih'
    exact (h.agreesOr_groupOutcome f (ih 0)).bind fun p q hp => .inl (.ok (.cons hp .nil))

end Splits

end Tree

/-! ### Composing -/

section Composing

variable (ev : Evaluator) (engine : Nat) (c : EngineClass) (on : Option Bool)

/-- What an engine makes equals what it makes of a plan with equal values. -/
lemma EngineKind.equals_of_like {kind : EngineKind} {base base' : Nat} {p q : Plan} {v w : Value}
    (h : p.Like q) (hv : kind.Made base p v) (hw : kind.Made base' q w) : v.equals w = true := by
  have hsame := kind.same_of_like h hv hw
  cases kind with
  | model =>
    rcases Value.eq_of_isHost hv.isHost with ⟨_, _, _, _, rfl⟩ | ⟨_, _, _, _, _, _, _, _, rfl⟩ <;>
      exact hsame
  | descriptor =>
    obtain ⟨id, es, rfl, -⟩ := Plan.exists_dict_of_bare hv
    exact hsame
  | trace implements =>
    rw [hv] at hsame ⊢
    exact hsame

/-- **Splitting**: whatever its engine and its configuration, composing a group gives an equal host
object or fails for the same reason, if slots at any depth are split any number of times into slots
of the same configuration with as many copies together; only where a row of copies cannot be made
of an unsplit slot, the split ones may do better or fail in another way. -/
theorem compose_splits {s : Session} (hs : s.Genuine s.composers.size engine) (hu : s.Unattached)
    (f : Frame) {ts us : List Tree} (h : Relation.ReflTransGen Tree.Splits ts us) :
    let made (ts : List Tree) : Except Fault Value :=
      ((composeWith (c.engine engine) on (f.toValue (Tree.toValues ts))).exec ev s).1
    Agrees (fun v w => w.equals v = true) (made ts) (made us) ∨
      made ts = .error .countTooLarge ∨ made ts = .error .outOfMemory := by
  intro made
  have hsplits := Tree.splits_of_reflTransGen h
  have hmade : ∀ ts, Agrees (fun v p => c.kind.Made s.serial p v) (made ts)
      (Draft.made (c.refusal s) (c.supports && on.getD true) f (Tree.drafts ts)) := by
    intro ts
    obtain ⟨r, x, t, hrun, hx, -⟩ :=
      exec_composeWith_engine ev engine c on hs hu f false (Tree.drafts ts)
    rw [Tree.toValues_drafts] at hrun
    have hrun : made ts = x := congrArg Prod.fst hrun
    rwa [hrun]
  have hlike : AgreesOr Plan.Like
      (Draft.made (c.refusal s) (c.supports && on.getD true) f (Tree.drafts us))
      (Draft.made (c.refusal s) (c.supports && on.getD true) f (Tree.drafts ts)) :=
    hsplits.agreesOr_groupOutcome f (hsplits.agreesOr_allOutcomes 0)
  clear_value made
  rcases hlike with hlike | hspace
  · -- both plans are alike, and so is what is made
    exact .inl ((hmade ts).join (hmade us) hlike fun v p w q hv hw hl =>
      EngineKind.equals_of_like hl hw hv)
  · -- the copies of a slot cannot be made
    have hts := hmade ts
    rcases hspace with he | he <;> rw [he] at hts <;> generalize made ts = x at hts ⊢ <;> cases hts
    · exact .inr (.inl rfl)
    · exact .inr (.inr rfl)

/-- In a row within a column a slot of three items is split into one of two and one of one, and the
first of them once more. -/
theorem compose_splits_nested :
    let z : LayoutSize := ⟨1, ⟨2, .absolute, .zero⟩, ⟨3, .absolute, .zero⟩⟩
    let row : Frame := ⟨4, z, some (.none 5), none, .horizontal, some ⟨6, .fixed, .zero⟩⟩
    let column : Frame := ⟨7, z, none, none, .vertical, none⟩
    let slot (id n : Nat) (h : 0 < n) : Slot := ⟨id, { z with id := id }, none, none, n, h⟩
    let ts : List Tree := [.group row [.slot (slot 8 3 (by decide))]]
    let us : List Tree := [.group row [.slot (slot 9 1 (by decide)), .slot (slot 10 1 (by decide)),
      .slot (slot 11 1 (by decide))]]
    let made (ts : List Tree) : Except Fault Value :=
      ((composeWith (EngineClass.model.engine 0) none
        (column.toValue (Tree.toValues ts))).exec .none (.initial [] false)).1
    Relation.ReflTransGen Tree.Splits ts us ∧
      ∃ v w, made ts = .ok v ∧ made us = .ok w ∧ w.equals v = true := by
  intro z row column slot ts us made
  let vs : List Tree := [.group row [.slot (slot 12 2 (by decide)), .slot (slot 11 1 (by decide))]]
  have h₁ : Tree.Splits ts vs := .group row (.slot [_, _] (by decide) rfl .nil) .nil
  have h₂ : Tree.Splits vs us := .group row
    (.slot [_, _] (by decide) rfl (.cons_self _ .nil)) .nil
  have hsplits : Relation.ReflTransGen Tree.Splits ts us := .tail (.single h₁) h₂
  refine ⟨hsplits, ?_⟩
  have h : Agrees (fun v w => w.equals v = true) (made ts) (made us) ∨
      made ts = .error .countTooLarge ∨ made ts = .error .outOfMemory :=
    compose_splits .none 0 .model none (Session.genuine_initial ..) (fun _ _ => rfl) column hsplits
  have hrun : Agrees _ (made ts) (Tree.plan true column ts) :=
    agrees_model .none 0 none rfl (Session.genuine_initial ..) (fun _ _ => rfl) column ts
  obtain ⟨p, hp⟩ := Tree.exists_plan true column ts
    (by simp [Tree.Fits, Tree.AllFit, memoryLimit, ts, slot])
  rw [hp] at hrun
  clear_value made
  generalize made ts = x at h hrun ⊢
  generalize made us = y at h ⊢
  cases hrun with
  | ok hv =>
    obtain h | h | h := h
    · cases h with
      | ok h => exact ⟨_, _, rfl, rfl, h⟩
    · cases h
    · cases h

/-- A slot with more copies than a list can have fails in one way, and the two slots with half as
many each in another way. -/
theorem overflow_not_kept :
    let z : LayoutSize := ⟨1, ⟨2, .absolute, .zero⟩, ⟨3, .absolute, .zero⟩⟩
    let row : Frame := ⟨4, z, none, none, .horizontal, none⟩
    let ts : List Tree := [.slot ⟨5, z, none, none, 2 ^ 63, by decide⟩]
    let us : List Tree := [.slot ⟨6, z, none, none, 2 ^ 62, by decide⟩,
      .slot ⟨7, z, none, none, 2 ^ 62, by decide⟩]
    let made (ts : List Tree) : Except Fault Value :=
      ((composeWith (EngineClass.model.engine 0) none
        (row.toValue (Tree.toValues ts))).exec .none (.initial [] false)).1
    Tree.Splits ts us ∧ made ts = .error .countTooLarge ∧ made us = .error .outOfMemory ∧
      ¬ Agrees (fun v w => w.equals v = true) (made ts) (made us) := by
  intro z row ts us made
  have hsplits : Tree.Splits ts us := by
    refine .slot [⟨6, z, none, none, 2 ^ 62, by decide⟩, ⟨7, z, none, none, 2 ^ 62, by decide⟩]
      (by decide) ?_ .nil
    simp [Slot.total]
  have hmade : ∀ {ts e}, Draft.made none true row (Tree.drafts ts) = .error e →
      made ts = .error e := by
    intro ts e he
    obtain ⟨r, x, t, hrun, hx, -⟩ := exec_composeWith_engine .none 0 .model none
      (Session.genuine_initial [] false 0 0) (fun _ _ => rfl) row false (Tree.drafts ts)
    rw [Tree.toValues_drafts] at hrun
    have hrun : made ts = x := congrArg Prod.fst hrun
    have hx : Agrees _ x (Draft.made none true row (Tree.drafts ts)) := hx
    rw [he] at hx
    rw [hrun]
    cases hx
    rfl
  have hts : made ts = .error .countTooLarge := hmade rfl
  have hus : made us = .error .outOfMemory := hmade rfl
  refine ⟨hsplits, hts, hus, ?_⟩
  rw [hts, hus]
  rintro ⟨⟩

end Composing

end LayoutTree
