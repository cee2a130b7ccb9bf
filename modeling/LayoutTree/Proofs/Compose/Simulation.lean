import LayoutTree.Host.Compose
import LayoutTree.Proofs.Attribute
import LayoutTree.Proofs.Compose.Refusal

/-!
Composing a group, for any engine whose operations do what plans say.

What an engine has to do is one condition on its operations. From it, by induction on the draft of
the group, composing makes the calls of the draft one by one and gives what its plan describes, or
fails where no plan can be made. Trees are drafts. An engine may refuse to repeat items; what the
draft becomes with it is known all the same.
-/

namespace LayoutTree

open Run

lemma forall₂_replicate {α β : Type} {A : α → β → Prop} {a : α} {b : β} (h : A a b) (n : Nat) :
    List.Forall₂ A (List.replicate n a) (List.replicate n b) := by
  induction n with
  | zero => exact .nil
  | succ n ih => exact .cons h ih

section Lists

variable {α β : Type} {A : α → β → Prop} {x : Except Fault (List α)} {y : Except Fault (List β)}

/-- Lists of one length fit into memory together. -/
lemma Agrees.extending (h : Agrees (List.Forall₂ A) x y) (held : Nat) :
    Agrees (List.Forall₂ A) (x >>= extending held) (y >>= extending held) := by
  refine h.bind fun xs ys hxs => ?_
  unfold LayoutTree.extending
  rw [hxs.length_eq]
  split
  · exact .ok hxs
  · exact .error _

lemma Agrees.appended {rest : Nat → Except Fault (List α)} {rest' : Nat → Except Fault (List β)}
    (h : Agrees (List.Forall₂ A) x y) (held : Nat)
    (hr : ∀ n, Agrees (List.Forall₂ A) (rest n) (rest' n)) :
    Agrees (List.Forall₂ A) (appended held x rest) (appended held y rest') := by
  refine (h.extending held).bind fun xs ys hxs => ?_
  rw [hxs.length_eq]
  exact (hr _).bind fun _ _ hzs => .ok (List.rel_append hxs hzs)

end Lists

/-- What a run gives is put at the end of a list before it goes on. -/
lemma exec_extending {α β : Type} (ev : Evaluator) {s u : Session} {x : Run (List α)}
    {r : Except Fault (List α)} (h : x.exec ev s = (r, u)) (held : Nat) (next : List α → Run β) :
    (do next (← extending held (← x))).exec ev s = match r >>= extending held with
      | .ok xs => (next xs).exec ev u
      | .error e => (.error e, u) := by
  rcases r with e | ys
  · exact exec_bind_error h
  rw [exec_bind_ok h]
  change (_ : Run β).exec ev u = match extending held ys with
    | .ok xs => (next xs).exec ev u
    | .error e => (.error e, u)
  rcases extending held ys with e | xs <;> rfl

/-- No script has replaced a method that composing calls, and composing can log. -/
structure Session.Genuine (s : Session) (composer engine : Nat) : Prop where
  composer : ∀ name, s.attribute? (.composer composer) name = none
  engine : ∀ p : Plan, s.attribute? (.object engine) p.method = none
  logs : s.CanLog "layoutbox.compose" .debug
  warns : s.CanLog "layoutbox.compose" .warning

/-- Before anything is attached nothing is replaced. -/
lemma Session.genuine_initial (environment : List (Text × Text)) (stream : Bool)
    (composer engine : Nat) : (Session.initial environment stream).Genuine composer engine where
  composer _ := rfl
  engine _ := rfl
  logs := .of_untouched rfl fun _ => rfl
  warns := .of_untouched rfl fun _ => rfl

/-- A composer is there with the methods of its own, and composing can log. -/
structure Session.Composes (s : Session) (id : Nat) (C : Composer) : Prop where
  composer : s.composers[id]? = some C
  untouched : ∀ name, s.attribute? (.composer id) name = none
  logs : s.CanLog "layoutbox.compose" .debug

lemma Session.Genuine.composes {s : Session} {id engine : Nat} (h : s.Genuine id engine)
    {C : Composer} (hC : s.composers[id]? = some C) : s.Composes id C :=
  ⟨hC, h.composer, h.logs⟩

lemma Session.Composes.of_logged {s t : Session} {id : Nat} {C : Composer} (h : s.Composes id C)
    (ht : s.Logged t) : t.Composes id C := by
  have hl := h.logs.of_logged ht
  obtain ⟨d, rs, rfl⟩ := ht
  exact ⟨h.composer, h.untouched, hl⟩

/-- The call that a plan ends with, on operands that are there. -/
def Plan.call (engine : Value) (p : Plan) (operands : List Value) : Run Value :=
  Run.operate engine p.method (pure ⟨operands, []⟩)

/-- The engine of a composer does what plans say. `R` tells the host objects that plans describe,
and `Inv ps` the sessions in which the calls `ps` were made. -/
structure Realizes (ev : Evaluator) (id : Nat) (C : Composer) (R : Value → Plan → Prop)
    (Inv : List Plan → Session → Prop) : Prop where
  composes {ps s} : Inv ps s → s.Composes id C
  logged {ps s t} : Inv ps s → s.Logged t → Inv ps t
  makes {ps s p vs} : Inv ps s → p.Takes R vs →
    (p.method = "make_repeated_group" → C.repeats.isTruthy) →
    ∃ v t, (p.call C.engine vs).exec ev s = (.ok v, t) ∧ R v p ∧ Inv (ps ++ [p]) t

/-- The engine of a composer does what plans say, except that it refuses to repeat items if a reason
for that is given. -/
structure Serves (ev : Evaluator) (id : Nat) (C : Composer) (refusal : Option Fault)
    (R : Value → Plan → Prop) (Inv : List Plan → Session → Prop) : Prop where
  composes {ps s} : Inv ps s → s.Composes id C
  logged {ps s t} : Inv ps s → s.Logged t → Inv ps t
  makes {ps s p vs} : Inv ps s → p.Takes R vs →
    (p.method = "make_repeated_group" → C.repeats.isTruthy ∧ refusal = none) →
    ∃ v t, (p.call C.engine vs).exec ev s = (.ok v, t) ∧ R v p ∧ Inv (ps ++ [p]) t
  refuses {ps s} {p : Plan} {vs e} : Inv ps s → p.Takes R vs → p.method = "make_repeated_group" →
    refusal = some e → ∃ t, (p.call C.engine vs).exec ev s = (.error e, t) ∧ Inv ps t

lemma Realizes.serves {ev : Evaluator} {id : Nat} {C : Composer} {R : Value → Plan → Prop}
    {Inv : List Plan → Session → Prop} (h : Realizes ev id C R Inv) :
    Serves ev id C none R Inv where
  composes := h.composes
  logged := h.logged
  makes hs hp hr := h.makes hs hp fun hm => (hr hm).1
  refuses _ _ _ h := nomatch h

/-- Where nothing has replaced an operation of an engine, it is that of the engine's class. -/
lemma Plan.exec_call (ev : Evaluator) {s : Session} {c : EngineClass} {engine : Nat} {p : Plan}
    (h : s.attribute? (.object engine) p.method = none) (vs : List Value) :
    (p.call (c.engine engine) vs).exec ev s = (c.operate p.method ⟨vs, []⟩).exec ev s := by
  have hf : (field (c.engine engine) p.method).exec ev s =
      (.ok (.method (c.engine engine) p.method), s) :=
    exec_field_method (by cases p <;> rfl) h (by cases p <;> rfl)
  unfold Plan.call Run.operate
  rw [exec_bind_ok hf]
  rfl

/-- Only what the operands turn out to be matters to an operation. -/
lemma exec_operate_congr (ev : Evaluator) {s : Session} (engine : Value) (operation : String)
    {operands : Run Arguments} {a : Arguments} (h : operands.exec ev s = (.ok a, s)) :
    (Run.operate engine operation operands).exec ev s =
      (Run.operate engine operation (pure a)).exec ev s := by
  obtain ⟨x, hx⟩ := exists_exec_field ev s engine operation
  unfold Run.operate
  rw [exec_bind, exec_bind, hx]
  cases x with
  | error e => rfl
  | ok f =>
    dsimp only
    rw [exec_bind_ok h, exec_bind_ok (exec_pure ev s a)]

/-! ### Fields of well-typed nodes -/

section Fields

variable (ev : Evaluator) (t : Session) (s : Slot) (f : Frame) (listed : Bool) (cs : List Value)

lemma Slot.exec_size : (field s.toValue "size").exec ev t = (.ok (.size s.size), t) := by
  obtain ⟨id, z, i, e, n, h⟩ := s
  exact exec_field (by cases i <;> cases e <;> rfl)

lemma Slot.exec_count :
    (field s.toValue "replica_count").exec ev t = (.ok (.int s.count), t) := by
  obtain ⟨id, z, i, e, n, h⟩ := s
  exact exec_field (by cases i <;> cases e <;> rfl)

lemma Slot.exec_insets :
    (field s.toValue "insets").exec ev t = (.ok (.ofOption .insets s.insets), t) := by
  obtain ⟨id, z, i, e, n, h⟩ := s
  exact exec_field (by cases i <;> cases e <;> rfl)

lemma Slot.exec_edges : (field s.toValue "edge_spacing").exec ev t =
    (.ok (.ofOption EdgeSpacing.toValue s.edges), t) := by
  obtain ⟨id, z, i, e, n, h⟩ := s
  exact exec_field (by cases i <;> cases e <;> rfl)

lemma Frame.exec_size :
    (field (f.holding listed cs) "size").exec ev t = (.ok (.size f.size), t) := by
  obtain ⟨id, z, i, e, d, g⟩ := f
  exact exec_field (by cases i <;> cases e <;> cases g <;> cases listed <;> rfl)

lemma Frame.exec_insets :
    (field (f.holding listed cs) "insets").exec ev t = (.ok (.ofOption .insets f.insets), t) := by
  obtain ⟨id, z, i, e, d, g⟩ := f
  exact exec_field (by cases i <;> cases e <;> cases g <;> cases listed <;> rfl)

lemma Frame.exec_edges : (field (f.holding listed cs) "edge_spacing").exec ev t =
    (.ok (.ofOption EdgeSpacing.toValue f.edges), t) := by
  obtain ⟨id, z, i, e, d, g⟩ := f
  exact exec_field (by cases i <;> cases e <;> cases g <;> cases listed <;> rfl)

lemma Frame.exec_direction :
    (field (f.holding listed cs) "direction").exec ev t = (.ok (.direction f.direction), t) := by
  obtain ⟨id, z, i, e, d, g⟩ := f
  exact exec_field (by cases i <;> cases e <;> cases g <;> cases listed <;> rfl)

lemma Frame.exec_spacing : (field (f.holding listed cs) "inter_item_spacing").exec ev t =
    (.ok (.ofOption .spacing f.spacing), t) := by
  obtain ⟨id, z, i, e, d, g⟩ := f
  exact exec_field (by cases i <;> cases e <;> cases g <;> cases listed <;> rfl)

lemma Frame.exec_children :
    (field (f.holding listed cs) "children").exec ev t = (.ok (.row listed cs), t) := by
  obtain ⟨id, z, i, e, d, g⟩ := f
  exact exec_field (by cases i <;> cases e <;> cases g <;> cases listed <;> rfl)

lemma Direction.exec_value (d : Direction) :
    (field (.direction d) "value").exec ev t = (.ok (.text d.text), t) :=
  exec_field (by cases d <;> rfl)

lemma Frame.exec_directionShown :
    (Composer.directionShown (f.holding listed cs)).exec ev t = (.ok f.direction.text, t) := by
  unfold Composer.directionShown
  rw [exec_bind_ok (f.exec_direction ev t listed cs), exec_bind_ok (f.direction.exec_value ev t)]
  rfl

end Fields

/-! ### One operation -/

namespace Serves

variable {ev : Evaluator} {id : Nat} {C : Composer} {refusal : Option Fault}
  {R : Value → Plan → Prop} {Inv : List Plan → Session → Prop} {ps : List Plan} {s : Session}
  (hR : Serves ev id C refusal R Inv)
include hR

lemma exec_composer (hs : Inv ps s) : (composer id).exec ev s = (.ok C, s) :=
  Run.exec_composer ev (hR.composes hs).composer

/-- The engine of the composer is asked, once the operands are there. -/
lemma exec_asked (operation : String) {vs : List Value} {operands : Run (List Value)}
    (hs : Inv ps s) (ho : operands.exec ev s = (.ok vs, s)) :
    (Composer.operate id operation operands).exec ev s =
      (Run.operate C.engine operation (pure ⟨vs, []⟩)).exec ev s := by
  have ha : (do return ⟨← operands, []⟩ : Run Arguments).exec ev s = (.ok ⟨vs, []⟩, s) := by
    rw [exec_bind_ok ho]
    rfl
  unfold Composer.operate
  rw [exec_bind_ok (hR.exec_composer hs), exec_operate_congr ev C.engine operation ha]

lemma exec_operate (operation : String) {p : Plan} {vs : List Value}
    {operands : Run (List Value)} (hs : Inv ps s) (ho : operands.exec ev s = (.ok vs, s))
    (hm : p.method = operation) (hp : p.Takes R vs)
    (hr : operation = "make_repeated_group" → C.repeats.isTruthy ∧ refusal = none) :
    ∃ v t, (Composer.operate id operation operands).exec ev s = (.ok v, t) ∧ R v p ∧
      Inv (ps ++ [p]) t := by
  subst hm
  obtain ⟨v, t, hv, hvp, ht⟩ := hR.makes hs hp hr
  exact ⟨v, t, by rw [hR.exec_asked p.method hs ho]; exact hv, hvp, ht⟩

/-- An operation that is asked for only if a field of the node is set. -/
lemma exec_optional {α : Type} (operation : String) {v node : Value} {name : String} {f : α → Value}
    {o : Option α} {p : Plan} {k : α → Plan} (hf : ∀ a, (f a).isNull = false)
    (hn : ∀ t, (field node name).exec ev t = (.ok (.ofOption f o), t))
    (hk : ∀ a, (k a).method = operation ∧ (k a).steps = p.steps ++ [k a])
    (hm : operation ≠ "make_repeated_group") (ht : ∀ a, (k a).Takes R [v, f a])
    (hs : Inv (ps ++ p.steps) s) (hv : R v p) :
    ∃ w t, R w (o.elim p k) ∧ Inv (ps ++ (o.elim p k).steps) t ∧
      ∀ {β : Type} (next : Value → Run β), (do
        let x ← field node name
        let obj ← if x.isNull then pure v
          else Composer.operate id operation do return [v, ← field node name]
        next obj).exec ev s = (next w).exec ev t := by
  cases o with
  | none =>
    refine ⟨v, s, hv, hs, fun next => ?_⟩
    rw [exec_bind_ok (hn s)]
    rfl
  | some a =>
    have ho : (do return [v, ← field node name] : Run (List Value)).exec ev s =
        (.ok [v, f a], s) := by
      rw [exec_bind_ok (hn s)]
      rfl
    obtain ⟨hka, hsteps⟩ := hk a
    obtain ⟨w, t, hw, hwp, ht⟩ :=
      hR.exec_operate operation hs ho hka (ht a) (fun h => absurd h hm)
    refine ⟨w, t, hwp, by simpa [hsteps] using ht, fun next => ?_⟩
    rw [exec_bind_ok (hn s), Value.ofOption, if_neg (by simp [hf a]), exec_bind_ok hw]

/-- Insets and edge spacing are asked for in this order, each if it is set. -/
lemma exec_configure {v node : Value} {p : Plan} {i : Option Insets} {e : Option EdgeSpacing}
    (hi : ∀ t, (field node "insets").exec ev t = (.ok (.ofOption .insets i), t))
    (he : ∀ t, (field node "edge_spacing").exec ev t = (.ok (.ofOption EdgeSpacing.toValue e), t))
    (hs : Inv (ps ++ p.steps) s) (hv : R v p) :
    ∃ w t, (Composer.configure id v node).exec ev s = (.ok w, t) ∧ R w (p.configured i e) ∧
      Inv (ps ++ (p.configured i e).steps) t := by
  have hc : s.replaced? (.composer id) "_apply_box_config" = none := (hR.composes hs).untouched _
  obtain ⟨w, t, hw, ht, hnext⟩ := hR.exec_optional "with_content_insets"
    (fun _ => rfl) hi (fun _ => ⟨rfl, rfl⟩) (by decide) (fun i => .insets i hv) hs hv
  obtain ⟨x, u, hx, hu, hlast⟩ := hR.exec_optional "with_edge_spacing"
    (fun _ => rfl) he (fun _ => ⟨rfl, rfl⟩) (by decide) (fun e => .edges e hw) ht hw
  refine ⟨x, u, ?_, hx, hu⟩
  have hpure := hlast pure
  unfold Composer.configure Composer.applyConfig
  rw [exec_callMethodOr hc, hnext]
  simpa using hpure

/-! ### Slots -/

lemma exec_composeSlot (z : Slot) (hs : Inv ps s) :
    ∃ r t, (Composer.composeSlot id z.toValue).exec ev s = (r, t) ∧
      Agrees (List.Forall₂ R) r z.items ∧ Inv (ps ++ z.leaf.steps) t := by
  have ho : (do return [← field z.toValue "size"] : Run (List Value)).exec ev s =
      (.ok [.size z.size], s) := by
    rw [exec_bind_ok (z.exec_size ev s)]
    rfl
  obtain ⟨v, t, hv, hvp, ht⟩ :=
    hR.exec_operate "make_item" hs ho rfl (.item z.size) (by simp)
  obtain ⟨w, u, hw, hwp, hu⟩ := hR.exec_configure (fun t => z.exec_insets ev t)
    (fun t => z.exec_edges ev t) ht hvp
  refine ⟨(List.replicate · w) <$> (Value.int z.count).times, u, ?_, ?_, hu⟩
  · unfold Composer.composeSlot
    rw [exec_bind_ok hv, exec_bind_ok hw, exec_bind_ok (z.exec_count ev u)]
    rfl
  · unfold Slot.items
    rcases (Value.int z.count).times with e | n
    · exact .error e
    · exact .ok (forall₂_replicate hwp n)

lemma exec_slotSubitems (z : Slot) (hs : Inv ps s) :
    ∃ r t, (Composer.slotSubitems id z.toValue).exec ev s = (r, t) ∧
      Agrees (List.Forall₂ R) r z.items ∧ Inv (ps ++ z.leaf.steps) t := by
  have hc : s.replaced? (.composer id) "compose_slot" = none := (hR.composes hs).untouched _
  unfold Composer.slotSubitems
  rw [exec_bind, exec_attached?, hc]
  exact hR.exec_composeSlot z hs

end Serves

/-! ### Equal slots -/

namespace Composer

lemma unhashable?_signature (z : Slot) : (Value.tuple z.signature).unhashable? = none := by
  obtain ⟨id, z, i, e, n, h⟩ := z
  rcases e with _ | ⟨id, l, t, r, b⟩
  · cases i <;> rfl
  · cases i <;> cases l <;> cases t <;> cases r <;> cases b <;> rfl

lemma homogeneousFrom_slot (seen : List Value) (z : Slot) (rest : List Value) :
    homogeneousFrom seen (z.toValue :: rest) =
      homogeneousFrom (addSignature seen (.tuple z.signature)) rest := by
  have h := unhashable?_signature z
  unfold Slot.signature at h ⊢
  rw [Slot.toValue, homogeneousFrom]
  · simp only [h]
  · nofun

/-- Once two configurations were seen the slots are not equal any more. -/
lemma homogeneousFrom_of_two {seen : List Value} (h : 2 ≤ seen.length) (ts : List Tree) :
    homogeneousFrom seen (Tree.toValues ts) = .ok false := by
  induction ts generalizing seen with
  | nil =>
    have : (seen.length == 1) = false := by simp; omega
    simp only [Tree.toValues, homogeneousFrom, this]
  | cons t ts ih =>
    cases t with
    | group f us => rfl
    | slot z =>
      rw [Tree.toValues, Tree.toValue, homogeneousFrom_slot]
      apply ih
      unfold addSignature
      split
      · exact h
      · simp; omega

lemma homogeneousFrom_one (z : Slot) (ts : List Tree) :
    homogeneousFrom [.tuple z.signature] (Tree.toValues ts) =
      .ok (match ts.mapM Tree.slot? with
        | some ss => ss.all (·.alike z)
        | none => false) := by
  induction ts with
  | nil => rfl
  | cons t ts ih =>
    cases t with
    | group f us => rfl
    | slot y =>
      rw [Tree.toValues, Tree.toValue, homogeneousFrom_slot]
      have hsame : (Value.tuple y.signature).same (.tuple z.signature) = y.alike z :=
        Value.same_tuple ..
      rcases hy : y.alike z with _ | _
      · rw [hy] at hsame
        simp only [addSignature, List.any_cons, hsame, List.any_nil]
        rw [homogeneousFrom_of_two (by simp)]
        rcases hss : ts.mapM Tree.slot? with _ | ss <;> simp [Tree.slot?, hss, hy]
      · rw [hy] at hsame
        simp only [addSignature, List.any_cons, hsame, Bool.true_or, ↓reduceIte]
        rw [ih]
        rcases hss : ts.mapM Tree.slot? with _ | ss <;> simp [Tree.slot?, hss, hy]

/-- Children are found to be equal slots exactly if they are. -/
lemma homogeneous_toValues (ts : List Tree) :
    homogeneous (Tree.toValues ts) = .ok (Tree.uniform ts) := by
  rcases ts with _ | ⟨t, ts⟩
  · rfl
  cases t with
  | group f us => rfl
  | slot z =>
    unfold homogeneous Tree.uniform
    rw [Tree.toValues, Tree.toValue, homogeneousFrom_slot]
    change homogeneousFrom [.tuple z.signature] _ = _
    rw [homogeneousFrom_one]
    rcases hss : ts.mapM Tree.slot? with _ | ss <;> simp [Tree.slot?, hss]

/-- Of children that can be composed, only the trees matter. -/
lemma homogeneousFrom_drafts {repeats : Bool} {held : Nat} {ds : List Draft} {xs : List Plan}
    (h : Draft.allSubitems repeats held ds = .ok xs) (seen : List Value) :
    homogeneousFrom seen (Draft.toValues ds) =
      homogeneousFrom seen (Tree.toValues (Draft.allTrees ds)) := by
  induction ds generalizing seen held xs with
  | nil => rfl
  | cons d ds ih =>
    obtain ⟨hd, hds⟩ := Draft.allSound_of_allSubitems _ h
    cases d with
    | slot z =>
      obtain ⟨xs, ys, -, -, hys, -⟩ := appended_eq_ok_iff.1 h
      rw [Draft.toValues, Draft.toValue, homogeneousFrom_slot, Draft.allTrees, Draft.trees,
        List.singleton_append, Tree.toValues, Tree.toValue, homogeneousFrom_slot]
      exact ih hys _
    | group f listed us => rfl
    | stranger v hv => exact hd.elim

lemma homogeneous_drafts {repeats : Bool} {held : Nat} {ds : List Draft} {xs : List Plan}
    (h : Draft.allSubitems repeats held ds = .ok xs) :
    homogeneous (Draft.toValues ds) = .ok (Tree.uniform (Draft.allTrees ds)) := by
  rw [← homogeneous_toValues, homogeneous, homogeneous, homogeneousFrom_drafts h]

end Composer

/-! ### Groups -/

lemma exec_elements_list (ev : Evaluator) (s : Session) (xs : List Value) :
    (elements (.list xs)).exec ev s = (.ok xs, s) := by
  change ((xs.mapM pure : Run (List Value))).exec ev s = _
  rw [List.mapM_pure]
  simp

lemma exec_elements_row (ev : Evaluator) (s : Session) (listed : Bool) (xs : List Value) :
    (elements (.row listed xs)).exec ev s = (.ok xs, s) := by
  cases listed <;> exact exec_elements_list ev s xs

namespace Serves

variable {ev : Evaluator} {id : Nat} {C : Composer} {refusal : Option Fault}
  {R : Value → Plan → Prop} {Inv : List Plan → Session → Prop} {ps : List Plan} {s : Session}
  (hR : Serves ev id C refusal R Inv) (f : Frame) (listed : Bool)
include hR

lemma exec_repeatsItems {ds : List Draft} {xs : List Plan} {repeats : Bool}
    (hx : Draft.allSubitems repeats 0 ds = .ok xs) (vs : List Value) (hs : Inv ps s) :
    (Composer.repeatsItems id (f.holding listed (Draft.toValues ds)) vs).exec ev s =
      (.ok (C.repeats.isTruthy && (Tree.uniform (Draft.allTrees ds) && decide (1 < vs.length))),
        s) := by
  unfold Composer.repeatsItems
  rw [exec_bind_ok (hR.exec_composer hs)]
  cases C.repeats.isTruthy with
  | false => rfl
  | true =>
    by_cases hl : 1 < vs.length
    · rw [if_pos (by simpa using hl), exec_bind_ok (f.exec_children ev s listed _),
        exec_bind_ok (exec_elements_row ev s listed _), Composer.homogeneous_drafts hx]
      simp [hl]
    · rw [if_neg (by simpa using hl)]
      simp [hl]

lemma exec_listedGroup {cs vs : List Value} {xs : List Plan} (hv : List.Forall₂ R vs xs)
    (hs : Inv ps s) :
    ∃ w t, R w (f.core none xs) ∧ Inv (ps ++ (f.core none xs).steps) t ∧
      (Composer.listedGroup id (f.holding listed cs) vs).exec ev s = (.ok w, t) := by
  have ho : (do
      let direction ← field (f.holding listed cs) "direction"
      return [direction, ← field (f.holding listed cs) "size", .list vs]
      : Run (List Value)).exec ev s =
        (.ok [.direction f.direction, .size f.size, .list vs], s) := by
    rw [exec_bind_ok (f.exec_direction ev s listed cs), exec_bind_ok (f.exec_size ev s listed cs)]
    rfl
  obtain ⟨w, t, hw, hwp, ht⟩ := hR.exec_operate "make_group" hs ho rfl
    (.group f.direction f.size hv) (by simp)
  exact ⟨w, t, hwp, ht, hw⟩

/-- Before one item is repeated this is logged, and the operands are read. -/
lemma exec_repeatedGroup_log (cs : List Value) (v : Value) (vs : List Value) (hs : Inv ps s) :
    ∃ t, Inv ps t ∧
      (Composer.repeatedGroup id (f.holding listed cs) (v :: vs)).exec ev s =
        (Run.operate C.engine "make_repeated_group" (pure ⟨[.direction f.direction, .size f.size, v,
          .int (v :: vs).length], []⟩)).exec ev t := by
  obtain ⟨t, ht, hst⟩ := exec_log ev (hR.composes hs).logs
    ("Repeating one item " ++ toString (v :: vs).length ++ " times in " ++ f.direction.text
      ++ " group")
  have hti := hR.logged hs hst
  have ho : (do
      let direction ← field (f.holding listed cs) "direction"
      return [direction, ← field (f.holding listed cs) "size", (v :: vs).headD .null,
        .int (v :: vs).length] : Run (List Value)).exec ev t =
      (.ok [.direction f.direction, .size f.size, v, .int (v :: vs).length], t) := by
    rw [exec_bind_ok (f.exec_direction ev t listed cs), exec_bind_ok (f.exec_size ev t listed cs)]
    rfl
  refine ⟨t, hti, ?_⟩
  unfold Composer.repeatedGroup
  rw [exec_bind_ok (f.exec_directionShown ev s listed cs), exec_bind_ok ht,
    hR.exec_asked "make_repeated_group" hti ho]

lemma exec_repeatedGroup {cs vs : List Value} {v : Value} {leaf : Plan} {xs : List Plan}
    (hv : R v leaf) (hr : C.repeats.isTruthy) (hn : refusal = none) (hs : Inv ps s) :
    ∃ w t, R w (f.core (some (leaf, (v :: vs).length)) xs) ∧
      Inv (ps ++ (f.core (some (leaf, (v :: vs).length)) xs).steps) t ∧
      (Composer.repeatedGroup id (f.holding listed cs) (v :: vs)).exec ev s = (.ok w, t) := by
  obtain ⟨t, ht, hrun⟩ := hR.exec_repeatedGroup_log f listed cs v vs hs
  obtain ⟨w, u, hw, hwp, hu⟩ := hR.makes ht (.repeated f.direction f.size (v :: vs).length hv)
    fun _ => ⟨hr, hn⟩
  exact ⟨w, u, hwp, hu, by rw [hrun]; exact hw⟩

lemma exec_refusedGroup {cs vs : List Value} {v : Value} {leaf : Plan} {e : Fault}
    (hv : R v leaf) (he : refusal = some e) (hs : Inv ps s) :
    ∃ t, Inv ps t ∧
      (Composer.repeatedGroup id (f.holding listed cs) (v :: vs)).exec ev s = (.error e, t) := by
  obtain ⟨t, ht, hrun⟩ := hR.exec_repeatedGroup_log f listed cs v vs hs
  obtain ⟨u, hu, hui⟩ := hR.refuses ht (.repeated f.direction f.size (v :: vs).length hv) rfl he
  exact ⟨u, hui, by rw [hrun]; exact hu⟩

/-- The group of subitems that are there: one of them repeated, or all in a list, unless the engine
refuses. -/
lemma exec_core {ds : List Draft} {vs : List Value} {xs : List Plan}
    (hx : Draft.allOutcomes refusal C.repeats.isTruthy 0 ds = .ok xs)
    (hv : List.Forall₂ R vs xs) (hs : Inv ps s) :
    let core := f.granted refusal
      (if C.repeats.isTruthy then Tree.repetition? (Draft.allTrees ds) else none) xs
    let group := f.holding listed (Draft.toValues ds)
    let run {β : Type} (next : Value → Run β) : Run β := do
      let obj ← if ← Composer.repeatsItems id group vs then Composer.repeatedGroup id group vs
        else Composer.listedGroup id group vs
      next obj
    (∃ p w t, core = .ok p ∧ p.isGroup = true ∧ R w p ∧ Inv (ps ++ p.steps) t ∧
      ∀ {β : Type} (next : Value → Run β), (run next).exec ev s = (next w).exec ev t) ∨
    ∃ e t, core = .error e ∧ Inv ps t ∧
      ∀ {β : Type} (next : Value → Run β), (run next).exec ev s = (.error e, t) := by
  intro core group run
  have hlen : vs.length = xs.length := hv.length_eq
  have hsub := Draft.allSubitems_of_allOutcomes ds hx
  have htrees : Tree.allSubitems C.repeats.isTruthy 0 (Draft.allTrees ds) = .ok xs :=
    (Draft.allPlanned ds (Draft.allSound_of_allSubitems ds hsub)).subitems 0 ▸ hsub
  simp only [run, group, exec_bind_ok (hR.exec_repeatsItems f listed hsub vs hs)]
  rcases hb : C.repeats.isTruthy && (Tree.uniform (Draft.allTrees ds) && decide (1 < vs.length))
    with _ | _
  · -- all subitems in a list
    have hcore : core = .ok (f.core none xs) := by
      rcases hr : C.repeats.isTruthy with _ | _
      · simp [core, hr, Frame.granted_of_none]
      · rw [hr, hlen, Bool.true_and] at hb
        simp [core, Tree.repetition?_eq_none htrees hb, Frame.granted_of_none]
    obtain ⟨w, t, hw, ht, hrun⟩ := hR.exec_listedGroup f listed hv hs
    exact .inl ⟨_, w, t, hcore, f.isGroup_core _ _, hw, ht,
      fun next => by rw [if_neg (by simp), exec_bind_ok hrun]⟩
  · -- the first subitem, repeated
    simp only [Bool.and_eq_true, decide_eq_true_eq] at hb
    obtain ⟨hr, hu, hl⟩ := hb
    obtain ⟨leaf, rest, rfl, hrep⟩ := Tree.repetition?_of_uniform htrees hu (hlen ▸ hl)
    obtain ⟨v, us, hvl, -, rfl⟩ := List.forall₂_cons_right_iff.1 hv
    have hcore : core = f.granted refusal (some (leaf, (v :: us).length)) (leaf :: rest) := by
      simp only [core, if_pos hr, hrep, hlen]
    rw [hcore]
    cases hn : refusal with
    | none =>
      obtain ⟨w, t, hw, ht, hrun⟩ := hR.exec_repeatedGroup f listed hvl hr hn hs
      exact .inl ⟨_, w, t, rfl, f.isGroup_core _ _, hw, ht,
        fun next => by rw [if_pos rfl, exec_bind_ok hrun]⟩
    | some e =>
      obtain ⟨t, ht, hrun⟩ := hR.exec_refusedGroup f listed hvl hn hs
      exact .inr ⟨e, t, rfl, ht, fun next => by rw [if_pos rfl, exec_bind_error hrun]⟩

lemma exec_assemble {ds : List Draft} {vs : List Value} {xs : List Plan}
    (hx : Draft.allOutcomes refusal C.repeats.isTruthy 0 ds = .ok xs)
    (hv : List.Forall₂ R vs xs) (hs : Inv ps s) :
    let core := f.granted refusal
      (if C.repeats.isTruthy then Tree.repetition? (Draft.allTrees ds) else none) xs
    let run := Composer.assemble id (f.holding listed (Draft.toValues ds)) vs
    (∃ p w t, core = .ok p ∧ run.exec ev s = (.ok w, t) ∧ R w (f.plan p) ∧
      Inv (ps ++ (f.plan p).steps) t) ∨
    ∃ e t, core = .error e ∧ run.exec ev s = (.error e, t) ∧ Inv ps t := by
  intro core run
  obtain ⟨p, a, s₁, hp, hgroup, ha, hs₁, hcore⟩ | ⟨e, t, he, ht, hcore⟩ :=
    hR.exec_core f listed hx hv hs
  · -- the group is made, configured and told about
    obtain ⟨b, s₂, hconf, hb, hs₂⟩ := hR.exec_configure
      (fun t => f.exec_insets ev t listed (Draft.toValues ds))
      (fun t => f.exec_edges ev t listed _) hs₁ ha
    have hgroup : (p.configured f.insets f.edges).isGroup = true := by
      rw [Plan.isGroup_configured, hgroup]
    obtain ⟨w, s₃, hw, hs₃, hnext⟩ := hR.exec_optional "with_inter_item_spacing"
      (fun _ => rfl) (fun t => f.exec_spacing ev t listed (Draft.toValues ds))
      (fun _ => ⟨rfl, rfl⟩) (by decide) (fun g => .spacing g hgroup hb) hs₂ hb
    obtain ⟨s₄, hlog, hs₄⟩ := exec_log ev (hR.composes hs₃).logs
      ("Composed " ++ f.direction.text ++ " group with " ++ toString vs.length ++ " subitems")
    refine .inl ⟨p, w, s₄, hp, ?_, hw, hR.logged hs₃ hs₄⟩
    have hlast : (do
        log "layoutbox.compose" .debug ("Composed "
          ++ (← Composer.directionShown (f.holding listed (Draft.toValues ds))) ++ " group with "
          ++ toString vs.length ++ " subitems")
        pure w : Run Value).exec ev s₃ = (.ok w, s₄) := by
      rw [exec_bind_ok (f.exec_directionShown ev s₃ listed _), exec_bind_ok hlog]
      rfl
    simp only [run]
    unfold Composer.assemble
    rw [hcore, exec_bind_ok hconf, hnext]
    exact hlast
  · -- the engine refuses to make it
    refine .inr ⟨e, t, he, ?_, ht⟩
    simp only [run]
    unfold Composer.assemble
    rw [hcore]

variable (deep : Value → Run (List Value))

/-- A group is composed after its children. -/
lemma exec_group (ds : List Draft) (hs : Inv ps s)
    (hds : ∃ r t, (Composer.allSubitems id deep 0 (Draft.toValues ds)).exec ev s = (r, t) ∧
      Agrees (List.Forall₂ R) r (Draft.allOutcomes refusal C.repeats.isTruthy 0 ds) ∧
      Inv (ps ++ Draft.allServed refusal C.repeats.isTruthy 0 ds) t) :
    let group := f.holding listed (Draft.toValues ds)
    let children := Value.row listed (Draft.toValues ds)
    ∃ r t, (do
        Composer.requireChildren group children
        Composer.assemble id group (← Composer.groupSubitems id deep children)).exec ev s = (r, t) ∧
      Agrees R r (Draft.made refusal C.repeats.isTruthy f ds) ∧
      Inv (ps ++ (Draft.group f listed ds).served refusal C.repeats.isTruthy) t := by
  intro group children
  rcases ds with _ | ⟨d, ds⟩
  · -- an empty group, which is refused before anything is asked for
    refine ⟨.error (.emptyGroup f.direction.text), s, ?_, .error _, ?_⟩
    · apply exec_bind_error
      unfold Composer.requireChildren
      rw [if_pos (by cases listed <;> rfl), exec_bind_ok (f.exec_directionShown ev s listed _)]
      rfl
    · change Inv (ps ++ []) s
      rwa [List.append_nil]
  · -- children, which are composed from left to right
    obtain ⟨r, t, hrun, hr, ht⟩ := hds
    have hreq : (Composer.requireChildren group children).exec ev s = (.ok (), s) := by
      unfold Composer.requireChildren
      rw [if_neg (by cases listed <;> simp [children, Value.row, Draft.toValues, Value.isTruthy])]
      rfl
    have hsub : Composer.groupSubitems id deep children =
        Composer.allSubitems id deep 0 (Draft.toValues (d :: ds)) := by
      cases listed <;> rfl
    rw [Draft.made, Draft.served, exec_bind_ok hreq, hsub]
    rcases hx : Draft.allOutcomes refusal C.repeats.isTruthy 0 (d :: ds) with e | xs <;>
      rw [hx] at hr <;> cases hr
    · -- some child failed
      refine ⟨.error e, t, exec_bind_error hrun, .error e, ?_⟩
      change Inv (ps ++ (Draft.allServed refusal C.repeats.isTruthy 0 (d :: ds) ++ [])) t
      rwa [List.append_nil]
    · -- the subitems are there, and the engine makes a group of them or refuses to
      rename_i hv
      rw [exec_bind_ok hrun]
      obtain ⟨p, w, u, hp, hw, hwp, hu⟩ | ⟨e, u, he, hw, hu⟩ := hR.exec_assemble f listed hx hv ht
      · rw [Draft.groupOutcome_of_granted (by simp) hp]
        exact ⟨.ok w, u, hw, .ok hwp, by rwa [← List.append_assoc]⟩
      · rw [Draft.groupOutcome_of_granted (by simp) he]
        exact ⟨.error e, u, hw, .error e, by simpa using hu⟩

end Serves

namespace Serves

variable {ev : Evaluator} {id : Nat} {C : Composer} {refusal : Option Fault}
  {R : Value → Plan → Prop} {Inv : List Plan → Session → Prop}

mutual

/-- What a child of a group becomes is what its plan says. -/
lemma exec_childSubitems {ps : List Plan} {s : Session} (hR : Serves ev id C refusal R Inv)
    (deep : Value → Run (List Value)) (d : Draft) (hs : Inv ps s) :
    ∃ r u, (Composer.childSubitems id deep d.toValue).exec ev s = (r, u) ∧
      Agrees (List.Forall₂ R) r (d.outcome refusal C.repeats.isTruthy) ∧
      Inv (ps ++ d.served refusal C.repeats.isTruthy) u := by
  cases d with
  | slot z => exact hR.exec_slotSubitems z hs
  | group f listed ds =>
    have hc : s.replaced? (.composer id) "compose_group" = none := (hR.composes hs).untouched _
    obtain ⟨r, u, hrun, hr, hu⟩ :=
      hR.exec_group f listed deep ds hs (exec_allSubitems hR deep 0 ds hs)
    refine ⟨([·]) <$> r, u, ?_, ?_, hu⟩
    · rw [Draft.toValue, Frame.holding, Composer.childSubitems, exec_bind, exec_callMethodOr hc]
      erw [hrun]
      cases r <;> rfl
    · exact hr.map fun _ _ hv => .cons hv .nil
  | stranger v hv =>
    refine ⟨.error (.strangerInGroup v.typeName), s, ?_, .error _, by simpa [Draft.served] using hs⟩
    cases v <;> first | rfl | cases hv

lemma exec_allSubitems {ps : List Plan} {s : Session} (hR : Serves ev id C refusal R Inv)
    (deep : Value → Run (List Value)) (held : Nat) (ds : List Draft) (hs : Inv ps s) :
    ∃ r u, (Composer.allSubitems id deep held (Draft.toValues ds)).exec ev s = (r, u) ∧
      Agrees (List.Forall₂ R) r (Draft.allOutcomes refusal C.repeats.isTruthy held ds) ∧
      Inv (ps ++ Draft.allServed refusal C.repeats.isTruthy held ds) u := by
  cases ds with
  | nil => exact ⟨.ok [], s, rfl, .ok .nil, by simpa [Draft.allServed] using hs⟩
  | cons d ds =>
    obtain ⟨r, u, hrun, hr, hu⟩ := exec_childSubitems hR deep d hs
    rw [Draft.toValues, Composer.allSubitems, Draft.allOutcomes, Draft.allServed,
      exec_extending ev hrun]
    have hroom := hr.extending held
    generalize r >>= extending held = x at hroom ⊢
    rcases hx : d.outcome refusal C.repeats.isTruthy >>= extending held with e | xs <;>
      rw [hx] at hroom <;> cases hroom
    · -- the child fails, or there is no room for what it becomes
      rw [appended_of_error hx]
      exact ⟨.error e, u, rfl, .error e, by simpa using hu⟩
    · -- there is room, and the other children follow
      rename_i vs hv
      obtain ⟨r', u', hrun', hr', hu'⟩ := exec_allSubitems hR deep (held + xs.length) ds hu
      rw [appended_of_ok hx]
      refine ⟨(vs ++ ·) <$> r', u', ?_, ?_, by simpa using hu'⟩
      · dsimp only
        rw [hv.length_eq, exec_bind, hrun']
        cases r' <;> rfl
      · exact hr'.map fun _ _ hv' => List.rel_append hv hv'

end

/-- **Composing**: the calls of the draft that the engine serves are made in order, and the outcome
is what the draft becomes with it. -/
theorem exec_composeDraft {ps : List Plan} {s : Session} (hR : Serves ev id C refusal R Inv)
    (f : Frame) (listed : Bool) (ds : List Draft) (hs : Inv ps s) :
    ∃ r t, (Composer.composeGroup id (f.holding listed (Draft.toValues ds))).exec ev s = (r, t) ∧
      Agrees R r (Draft.made refusal C.repeats.isTruthy f ds) ∧
      Inv (ps ++ (Draft.group f listed ds).served refusal C.repeats.isTruthy) t := by
  obtain ⟨r, t, hrun, hr, ht⟩ := hR.exec_group f listed
    (Composer.childSubitemsWithin id (ev.depth + 1)) ds hs (exec_allSubitems hR _ 0 ds hs)
  refine ⟨r, t, ?_, hr, ht⟩
  rw [← hrun]
  unfold Composer.composeGroup Composer.composeGroupWith
  rw [exec_bind_ok (exec_read ev s), exec_bind_ok (f.exec_children ev s listed _)]
  rcases hq : (Composer.requireChildren (f.holding listed (Draft.toValues ds))
    (.row listed (Draft.toValues ds))).exec ev s with ⟨_ | _, u⟩
  · rw [exec_bind_error hq, exec_bind_error hq]
  · rw [exec_bind_ok hq, exec_bind_ok hq, exec_bind_ok (f.exec_children ev u listed _)]

end Serves

namespace Realizes

variable {ev : Evaluator} {id : Nat} {C : Composer} {R : Value → Plan → Prop}
  {Inv : List Plan → Session → Prop}

/-- With an engine that does not refuse, all calls of the draft are made, and the outcome is what
the plan of the group says. -/
theorem exec_composeDraft {ps : List Plan} {s : Session} (hR : Realizes ev id C R Inv) (f : Frame)
    (listed : Bool) (ds : List Draft) (hs : Inv ps s) :
    ∃ r t, (Composer.composeGroup id (f.holding listed (Draft.toValues ds))).exec ev s = (r, t) ∧
      Agrees R r (Draft.plan C.repeats.isTruthy f ds) ∧
      Inv (ps ++ (Draft.group f listed ds).calls C.repeats.isTruthy) t := by
  rw [← Draft.made_none, ← Draft.served_none]
  exact hR.serves.exec_composeDraft f listed ds hs

theorem exec_composeGroup {ps : List Plan} {s : Session} (hR : Realizes ev id C R Inv) (f : Frame)
    (ts : List Tree) (hs : Inv ps s) :
    ∃ r t, (Composer.composeGroup id (f.toValue (Tree.toValues ts))).exec ev s = (r, t) ∧
      Agrees R r (Tree.plan C.repeats.isTruthy f ts) ∧
      Inv (ps ++ (Tree.group f ts).calls C.repeats.isTruthy) t := by
  obtain ⟨r, t, hrun, hr, ht⟩ := hR.exec_composeDraft f false (Tree.drafts ts) hs
  rw [Tree.toValues_drafts] at hrun
  rw [Draft.plan, Tree.allSubitems_drafts, Tree.groupPlan_drafts] at hr
  refine ⟨r, t, hrun, hr, ?_⟩
  rwa [← Tree.draft, Tree.calls_draft] at ht

end Realizes

end LayoutTree
