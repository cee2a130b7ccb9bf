import LayoutTree.Proofs.Attribute
import LayoutTree.Proofs.Lawful.Basic

/-!
What a computation ensures, started in a lawful session: that the session stays lawful, also where
it fails, and something of what it gives and of why it fails. There is a law for each operation
from which computations are built, and one for each function of sessions, attributes and cursors.
-/

namespace LayoutTree

variable {kept : Prop}

/-- From lawful sessions a computation leads to lawful ones. What it gives has one property, and
why it fails another. -/
def Run.Ensures {α : Type} (m : Run α) (kept : Prop) (ev : Evaluator) (F : Fault → Prop)
    (P : α → Prop) : Prop :=
  ∀ s, s.Lawful kept → (m.exec ev s).2.Lawful kept ∧ match (m.exec ev s).1 with
    | .ok a => P a
    | .error e => F e

namespace Run.Ensures

variable {α β : Type} {ev : Evaluator} {F G : Fault → Prop} {P : α → Prop} {Q : β → Prop}
  {m : Run α}

lemma pure {a : α} (h : P a) : (Pure.pure a : Run α).Ensures kept ev F P := fun _ hs => ⟨hs, h⟩

lemma throw {e : Fault} (h : F e) : (MonadExcept.throw e : Run α).Ensures kept ev F P :=
  fun _ hs => ⟨hs, h⟩

lemma get : (MonadState.get : Run Session).Ensures kept ev F (Session.Lawful kept) :=
  fun _ hs => ⟨hs, hs⟩

lemma read : (MonadReader.read : Run Evaluator).Ensures kept ev F (· = ev) := fun _ hs => ⟨hs, rfl⟩

lemma set {s : Session} (h : s.Lawful kept) :
    (MonadStateOf.set s : Run PUnit).Ensures kept ev F fun _ => True := fun _ _ => ⟨h, trivial⟩

lemma modify {f : Session → Session} (h : ∀ s, s.Lawful kept → (f s).Lawful kept) :
    (modify f : Run PUnit).Ensures kept ev F fun _ => True := fun s hs => ⟨h s hs, trivial⟩

lemma modifyGet {f : Session → α × Session}
    (h : ∀ s, s.Lawful kept → (f s).2.Lawful kept ∧ P (f s).1) :
    (MonadStateOf.modifyGet f : Run α).Ensures kept ev F P := fun s hs => h s hs

lemma lift {x : Except Fault α} (hok : ∀ a, x = .ok a → P a) (herror : ∀ e, x = .error e → F e) :
    (liftM x : Run α).Ensures kept ev F P := by
  intro s hs
  rw [exec_lift]
  rcases x with e | a
  · exact ⟨hs, herror e rfl⟩
  · exact ⟨hs, hok a rfl⟩

lemma bind {f : α → Run β} (hm : m.Ensures kept ev F P)
    (hf : ∀ a, P a → (f a).Ensures kept ev F Q) :
    (m >>= f).Ensures kept ev F Q := by
  intro s hs
  obtain ⟨ht, hr⟩ := hm s hs
  rw [exec_bind]
  rcases hx : m.exec ev s with ⟨e | a, t⟩ <;> rw [hx] at ht hr
  · exact ⟨ht, hr⟩
  · exact hf a hr t ht

lemma map {f : α → β} (hm : m.Ensures kept ev F P) (hf : ∀ a, P a → Q (f a)) :
    (f <$> m).Ensures kept ev F Q := by
  rw [← bind_pure_comp]
  exact hm.bind fun a ha => .pure (hf a ha)

lemma tryCatch {g : Fault → Run α} (hm : m.Ensures kept ev G P)
    (hg : ∀ e, G e → (g e).Ensures kept ev F P) :
    (MonadExcept.tryCatch m g).Ensures kept ev F P := by
  intro s hs
  obtain ⟨ht, hr⟩ := hm s hs
  rw [exec_tryCatch]
  rcases hx : m.exec ev s with ⟨e | a, t⟩ <;> rw [hx] at ht hr
  · exact hg e hr t ht
  · exact ⟨ht, hr⟩

lemma mono {P' : α → Prop} (hm : m.Ensures kept ev F P) (h : ∀ a, P a → P' a) :
    m.Ensures kept ev F P' := by
  intro s hs
  obtain ⟨ht, hr⟩ := hm s hs
  rcases hx : m.exec ev s with ⟨e | a, t⟩ <;> rw [hx] at ht hr
  · exact ⟨ht, hr⟩
  · exact ⟨ht, h a hr⟩

lemma cons {x : Run α} {xs : Run (List α)} (h : x.Ensures kept ev F P)
    (hs : xs.Ensures kept ev F fun as => ∀ a ∈ as, P a) :
    (do return (← x) :: (← xs) : Run (List α)).Ensures kept ev F fun as => ∀ a ∈ as, P a :=
  h.bind fun _ ha => hs.bind fun _ has => .pure (List.forall_mem_cons.2 ⟨ha, has⟩)

lemma mapM {γ : Type} {f : γ → Run α} {cs : List γ} (h : ∀ c ∈ cs, (f c).Ensures kept ev F P) :
    (cs.mapM f).Ensures kept ev F fun as => ∀ a ∈ as, P a := by
  induction cs with
  | nil => exact .pure fun a ha => absurd ha List.not_mem_nil
  | cons c cs ih =>
    rw [List.mapM_cons]
    exact .cons (h c List.mem_cons_self) (ih fun c' hc' => h c' (List.mem_cons_of_mem _ hc'))

end Run.Ensures

/-! ### Faults and evaluators -/

/-- The fault is a refusal of what was given: what validation finds wrong, a value of a wrong type,
or a value that does not do. -/
def Fault.isRefusal : Fault → Bool
  | .invalid .. => true
  | .unknownEdge _ | .notMember .. | .noSections | .unknownLevel _ | .alreadyRunning => true
  | .nullCharacter | .badVariable => true
  | .fixedType .. | .notNode _ | .textInBlock _ | .strangerInBlock _ | .notBlock _ => true
  | .notIterable _ | .notCallable _ | .notMapping _ | .unhashable _ | .noLength _ => true
  | .notSubscriptable _ | .typeNotSubscriptable _ | .badIndex .. | .badPlace _ => true
  | .notCount _ | .notName .. | .notLevel _ | .notComparable _ | .notLoggerName => true
  | .notSerializable _ | .notText _ | .unboundMethod _ | .wrongArguments => true
  | _ => false

/-- The fault is a refusal, or code was nested too deep. -/
def Fault.Own (e : Fault) : Prop := e.isRefusal = true ∨ e = .tooDeep

/-- Any fault will do. -/
def Fault.Any (_ : Fault) : Prop := True

/-- What an evaluator gives for lawful code is lawful, and so are the sessions it leaves. The code
fails only for certain reasons, refusals and too deep a nesting among them. -/
structure Evaluator.Lawful (ev : Evaluator) (kept : Prop) (F : Fault → Prop) : Prop where
  own : ∀ e : Fault, e.Own → F e
  evaluate : ∀ e : Expr, e.Lawful kept → (Run.evaluate e).Ensures kept ev F (Value.Lawful kept)
  invoke : ∀ (v : Value) (name : String) (a : Arguments),
    v.Lawful kept → (name : Text) ∉ Expr.unvalidating → a.Lawful kept →
      (Run.invoke v name a).Ensures kept ev F (Value.Lawful kept)

namespace Evaluator.Lawful

variable {ev : Evaluator} {F : Fault → Prop} (hev : ev.Lawful kept F)
include hev

lemma refuses (e : Fault) (h : e.isRefusal = true) : F e := hev.own e (.inl h)

lemma tooDeep : F .tooDeep := hev.own _ (.inr rfl)

lemma wrongArguments : F .wrongArguments := hev.refuses _ rfl

end Evaluator.Lawful

/-- What fails only for reasons of its own fails only for reasons that an evaluator has as well. -/
lemma Run.Ensures.own {α : Type} {ev : Evaluator} {F : Fault → Prop} {P : α → Prop} {m : Run α}
    (h : m.Ensures kept ev Fault.Own P) (hev : ev.Lawful kept F) : m.Ensures kept ev F P := by
  intro s hs
  obtain ⟨ht, hr⟩ := h s hs
  rcases hx : m.exec ev s with ⟨e | a, t⟩ <;> rw [hx] at ht hr
  · exact ⟨ht, hev.own e hr⟩
  · exact ⟨ht, hr⟩

namespace Run

variable {α : Type} {ev : Evaluator} {F : Fault → Prop} {P : α → Prop} {v x : Value}
  {fs : Fields} {name : Text} {id : Nat} {a : Arguments}

/-! ### Identities and notes -/

lemma ensures_fresh : fresh.Ensures kept ev F fun _ => True :=
  .modifyGet fun _ hs => ⟨{ hs with }, trivial⟩

lemma ensures_newDict (h : fs.Lawful kept) : (newDict fs).Ensures kept ev F (Value.Lawful kept) :=
  ensures_fresh.bind fun _ _ => .pure (Value.lawful_dict.2 h)

lemma ensures_note (n : Note) : (note n).Ensures kept ev F fun _ => True :=
  .modify fun _ hs => { hs with }

lemma ensures_written (v : Value) : (written v).Ensures kept ev F fun _ => True :=
  .bind .get fun _ _ => .pure trivial

lemma ensures_shown (v : Value) : (shown v).Ensures kept ev F fun _ => True :=
  .bind .get fun _ _ => .pure trivial

lemma ensures_setting (t : Setting) : (setting t).Ensures kept ev F fun _ => True :=
  .bind .get fun _ _ => .pure trivial

lemma ensures_newEngine {c : EngineClass} (h : c.label.Lawful kept) :
    (newEngine c).Ensures kept ev F (Value.Lawful kept) :=
  ensures_fresh.bind fun _ _ => .pure (Value.lawful_engine.2 h)

/-! ### Builders, cursors and composers -/

lemma ensures_newBox {b : Box} (h : b.Lawful kept) :
    (newBox b).Ensures kept ev F (Value.Lawful kept) := by
  refine .modifyGet fun s hs => ⟨{ hs with boxes := fun b' hb' => ?_ }, .atom rfl⟩
  rcases Array.mem_push.1 hb' with hb' | rfl
  · exact hs.boxes b' hb'
  · exact h

lemma ensures_setBox {b : Box} (h : b.Lawful kept) :
    (setBox id b).Ensures kept ev F fun _ => True := by
  refine .modify fun s hs => { hs with boxes := fun b' hb' => ?_ }
  rcases Array.mem_or_eq_of_mem_setIfInBounds hb' with hb' | rfl
  · exact hs.boxes b' hb'
  · exact h

lemma ensures_newCursor {p : Pending} (h : p.Lawful kept) :
    (newCursor p).Ensures kept ev F (Value.Lawful kept) := by
  refine .modifyGet fun s hs => ⟨{ hs with cursors := fun c hc => ?_ }, .atom rfl⟩
  rcases Array.mem_push.1 hc with hc | rfl
  · exact hs.cursors c hc
  · exact h

lemma ensures_setCursor {c : Cursor} (h : c.pending.Lawful kept) :
    (setCursor id c).Ensures kept ev F fun _ => True := by
  refine .modify fun s hs => { hs with cursors := fun c' hc' => ?_ }
  rcases Array.mem_or_eq_of_mem_setIfInBounds hc' with hc' | rfl
  · exact hs.cursors c' hc'
  · exact h

lemma ensures_newComposer {c : Composer} (h : c.Lawful kept) :
    (newComposer c).Ensures kept ev F fun _ => True := by
  refine .modifyGet fun s hs => ⟨{ hs with composers := fun c' hc' => ?_ }, trivial⟩
  rcases Array.mem_push.1 hc' with hc' | rfl
  · exact hs.composers c' hc'
  · exact h

lemma ensures_setComposer {c : Composer} (h : c.Lawful kept) :
    (setComposer id c).Ensures kept ev F fun _ => True := by
  refine .modify fun s hs => { hs with composers := fun c' hc' => ?_ }
  rcases Array.mem_or_eq_of_mem_setIfInBounds hc' with hc' | rfl
  · exact hs.composers c' hc'
  · exact h

variable (hf : F .wrongArguments)
include hf

lemma ensures_box (id : Nat) : (box id).Ensures kept ev F (Box.Lawful kept) := by
  refine .bind .get fun s hs => ?_
  rcases hb : s.boxes[id]? with _ | b
  · exact .throw hf
  · exact .pure (hs.boxes b (Array.mem_of_getElem? hb))

lemma ensures_cursor (id : Nat) : (cursor id).Ensures kept ev F (·.pending.Lawful kept) := by
  refine .bind .get fun s hs => ?_
  rcases hc : s.cursors[id]? with _ | c
  · exact .throw hf
  · exact .pure (hs.cursors c (Array.mem_of_getElem? hc))

lemma ensures_composer (id : Nat) : (composer id).Ensures kept ev F (Composer.Lawful kept) := by
  refine .bind .get fun s hs => ?_
  rcases hc : s.composers[id]? with _ | c
  · exact .throw hf
  · exact .pure (hs.composers c (Array.mem_of_getElem? hc))

end Run

end LayoutTree
