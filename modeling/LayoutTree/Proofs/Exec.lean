import LayoutTree.Session.Cursor
import Mathlib.Data.List.Forall2

/-!
What a computation does from a session: its result, which may be a fault, and the session that
it leaves behind. The laws follow the operations from which computations are built, and so do those
on what computations keep.
-/

namespace LayoutTree.Run

variable {α β : Type}

/-- The result of a computation and the session after it. -/
def exec (m : Run α) (ev : Evaluator) (s : Session) : Except Fault α × Session := (m.run ev).run s

variable (ev : Evaluator) (s : Session)

@[simp] lemma exec_pure (a : α) : (pure a : Run α).exec ev s = (.ok a, s) := rfl

@[simp] lemma exec_throw (f : Fault) : (throw f : Run α).exec ev s = (.error f, s) := rfl

@[simp] lemma exec_get : (get : Run Session).exec ev s = (.ok s, s) := rfl

@[simp] lemma exec_read : (read : Run Evaluator).exec ev s = (.ok ev, s) := rfl

@[simp] lemma exec_modify (f : Session → Session) :
    (modify f : Run PUnit).exec ev s = (.ok ⟨⟩, f s) := rfl

@[simp] lemma exec_modifyGet (f : Session → α × Session) :
    (modifyGet f : Run α).exec ev s = (.ok (f s).1, (f s).2) := rfl

@[simp] lemma exec_lift (x : Except Fault α) : (liftM x : Run α).exec ev s = (x, s) := rfl

lemma exec_bind (m : Run α) (f : α → Run β) :
    (m >>= f).exec ev s = match m.exec ev s with
      | (.ok a, t) => (f a).exec ev t
      | (.error e, t) => (.error e, t) := by
  have h : (m >>= f).exec ev s =
      ExceptT.bindCont (fun a => (f a).run ev) (m.exec ev s).1 (m.exec ev s).2 := rfl
  rw [h]
  rcases m.exec ev s with ⟨_ | _, t⟩ <;> rfl

lemma exec_map (m : Run α) (f : α → β) :
    (f <$> m).exec ev s = ((m.exec ev s).1.map f, (m.exec ev s).2) := by
  rw [← bind_pure_comp, exec_bind]
  rcases m.exec ev s with ⟨_ | _, t⟩ <;> rfl

lemma exec_tryCatch (m : Run α) (g : Fault → Run α) :
    (tryCatch m g).exec ev s = match m.exec ev s with
      | (.ok a, t) => (.ok a, t)
      | (.error e, t) => (g e).exec ev t := by
  have h : (tryCatch m g).exec ev s =
      (ExceptT.tryCatch (m.run ev) fun e => (g e).run ev).run.run s := rfl
  rw [h, ExceptT.tryCatch, ExceptT.run_mk, StateT.run_bind]
  have hm : m.exec ev s = StateT.run (m.run ev) s := rfl
  rw [hm]
  rcases StateT.run (m.run ev) s with ⟨_ | _, t⟩ <;> rfl

variable {ev s} {m : Run α} {f : α → Run β} {a : α} {e : Fault} {t : Session}

lemma exec_bind_ok (h : m.exec ev s = (.ok a, t)) :
    (m >>= f).exec ev s = (f a).exec ev t := by rw [exec_bind, h]

lemma exec_bind_error (h : m.exec ev s = (.error e, t)) :
    (m >>= f).exec ev s = (.error e, t) := by rw [exec_bind, h]

/-- What succeeds in two steps succeeds in each of them. -/
lemma exec_bind_eq_ok {b : β} (h : (m >>= f).exec ev s = (.ok b, t)) :
    ∃ a u, m.exec ev s = (.ok a, u) ∧ (f a).exec ev u = (.ok b, t) := by
  rw [exec_bind] at h
  rcases hm : m.exec ev s with ⟨_ | a, u⟩ <;> rw [hm] at h
  · cases h
  · exact ⟨a, u, rfl, h⟩

/-- Elements that do the same, one by one, do the same in a row. -/
lemma exec_mapM_congr {f g : α → Run β} (h : ∀ s a, (f a).exec ev s = (g a).exec ev s)
    (s : Session) (as : List α) : (as.mapM f).exec ev s = (as.mapM g).exec ev s := by
  induction as generalizing s with
  | nil => rw [List.mapM_nil, List.mapM_nil]
  | cons a as ih =>
    rw [List.mapM_cons, List.mapM_cons, exec_bind, exec_bind, h]
    rcases (g a).exec ev s with ⟨_ | b, t⟩
    · simp only
    · simp only
      rw [exec_bind, exec_bind, ih]

/-- There are as many results as elements. -/
lemma length_of_exec_mapM {f : α → Run β} {as : List α} {bs : List β}
    (h : (as.mapM f).exec ev s = (.ok bs, t)) : bs.length = as.length := by
  induction as generalizing s bs with
  | nil =>
    cases h
    rfl
  | cons a as ih =>
    rw [List.mapM_cons] at h
    obtain ⟨b, u, -, h⟩ := exec_bind_eq_ok h
    obtain ⟨cs, v, hcs, h⟩ := exec_bind_eq_ok h
    cases h
    rw [List.length_cons, List.length_cons, ih hcs]

lemma exec_drawn_congr {f g : Value → Run α} (h : ∀ s v, (f v).exec ev s = (g v).exec ev s)
    (s : Session) (id n : Nat) : (drawn id f n).exec ev s = (drawn id g n).exec ev s := by
  induction n generalizing s with
  | zero => rw [drawn, drawn]
  | succ n ih =>
    rw [drawn, drawn, exec_bind, exec_bind]
    rcases (draw id).exec ev s with ⟨_ | _ | v, t⟩
    · simp only
    · simp only
    · simp only
      rw [exec_bind, exec_bind, h]
      rcases (g v).exec ev t with ⟨_ | a, u⟩
      · simp only
      · simp only
        rw [exec_bind, exec_bind, ih]

/-! ### Builders and cursors -/

lemma exec_box (ev : Evaluator) {id : Nat} {b : Box} (h : s.boxes[id]? = some b) :
    (box id).exec ev s = (.ok b, s) := by
  unfold box
  rw [exec_bind, exec_get]
  simp only [h, exec_pure]

lemma exec_box_missing (ev : Evaluator) {id : Nat} (h : s.boxes[id]? = none) :
    (box id).exec ev s = (.error .wrongArguments, s) := by
  unfold box
  rw [exec_bind, exec_get]
  simp only [h, exec_throw]

lemma exec_cursor (ev : Evaluator) {id : Nat} {c : Cursor} (h : s.cursors[id]? = some c) :
    (cursor id).exec ev s = (.ok c, s) := by
  unfold cursor
  rw [exec_bind, exec_get]
  simp only [h, exec_pure]

lemma exec_cursor_missing (ev : Evaluator) {id : Nat} (h : s.cursors[id]? = none) :
    (cursor id).exec ev s = (.error .wrongArguments, s) := by
  unfold cursor
  rw [exec_bind, exec_get]
  simp only [h, exec_throw]

lemma exec_composer (ev : Evaluator) {id : Nat} {c : Composer} (h : s.composers[id]? = some c) :
    (composer id).exec ev s = (.ok c, s) := by
  unfold composer
  rw [exec_bind, exec_get]
  simp only [h, exec_pure]

lemma exec_composer_missing (ev : Evaluator) {id : Nat} (h : s.composers[id]? = none) :
    (composer id).exec ev s = (.error .wrongArguments, s) := by
  unfold composer
  rw [exec_bind, exec_get]
  simp only [h, exec_throw]

end LayoutTree.Run

namespace LayoutTree

/-! ### Properties of sessions -/

/-- From sessions with a property a computation leads to sessions with it, also where it fails. -/
def Run.Keeps {α : Type} (m : Run α) (ev : Evaluator) (P : Session → Prop) : Prop :=
  ∀ s, P s → P (m.exec ev s).2

/-- The session in another environment instead of its own. -/
def Session.amid (g : Environment → Environment) (s : Session) : Session :=
  { s with environment := g s.environment }

/-- The session in a certain environment. -/
def Session.within (s : Session) (environment : Environment) : Session :=
  s.amid fun _ => environment

/-- From a session a computation does the same whichever of two evaluators is used and in whichever
of two environments, and leads to a session with a property. -/
def Run.BlindAt {α : Type} (m : Run α) (ev ev' : Evaluator) (g : Environment → Environment)
    (P : Session → Prop) (s : Session) : Prop :=
  m.exec ev' (s.amid g) = ((m.exec ev s).1, (m.exec ev s).2.amid g) ∧ P (m.exec ev s).2

/-- From all sessions with the property it does so. -/
def Run.Blind {α : Type} (m : Run α) (ev ev' : Evaluator) (g : Environment → Environment)
    (P : Session → Prop) : Prop :=
  ∀ s, P s → m.BlindAt ev ev' g P s

namespace Run.Blind

variable {α β : Type} {ev ev' : Evaluator} {g : Environment → Environment} {P : Session → Prop}
  {m : Run α}

lemma keeps (h : m.Blind ev ev' g P) : m.Keeps ev P := fun s hs => (h s hs).2

lemma of_keeps (h : m.Keeps ev P) : m.Blind ev ev id P := fun s hs => ⟨rfl, h s hs⟩

lemma pure (a : α) : (Pure.pure a : Run α).Blind ev ev' g P := fun _ h => ⟨rfl, h⟩

lemma throw (e : Fault) : (MonadExcept.throw e : Run α).Blind ev ev' g P := fun _ h => ⟨rfl, h⟩

lemma lift (x : Except Fault α) : (liftM x : Run α).Blind ev ev' g P := fun _ h => ⟨rfl, h⟩

/-- It is enough to know of a result what computations from the sessions with the property give. -/
lemma bind_ok {Q : α → Prop} {f : α → Run β} (hm : m.Blind ev ev' g P)
    (hq : ∀ s a t, P s → m.exec ev s = (.ok a, t) → Q a)
    (hf : ∀ a, Q a → (f a).Blind ev ev' g P) : (m >>= f).Blind ev ev' g P := by
  intro s h
  obtain ⟨he, ht⟩ := hm s h
  unfold BlindAt
  rw [exec_bind, exec_bind, he]
  rcases hx : m.exec ev s with ⟨e | a, t⟩ <;> rw [hx] at ht
  · exact ⟨rfl, ht⟩
  · exact hf a (hq s a t h hx) t ht

lemma bind {f : α → Run β} (hm : m.Blind ev ev' g P) (hf : ∀ a, (f a).Blind ev ev' g P) :
    (m >>= f).Blind ev ev' g P :=
  hm.bind_ok (Q := fun _ => True) (fun _ _ _ _ _ => trivial) fun a _ => hf a

/-- After something was looked up in the session, which is the same in all environments, it is known
what was found. -/
lemma look {f : α → Run β} (h : ∀ s, P s → ∃ x, (∀ ev g, m.exec ev (s.amid g) = (x, s.amid g)) ∧
      ∀ a, x = .ok a → (f a).BlindAt ev ev' g P s) :
    (m >>= f).Blind ev ev' g P := by
  intro s hs
  obtain ⟨x, hx, hf⟩ := h s hs
  have hxs : m.exec ev s = (x, s) := hx ev id
  unfold BlindAt
  cases x with
  | error e =>
    rw [exec_bind_error (hx ev' g), exec_bind_error hxs]
    exact ⟨rfl, hs⟩
  | ok a =>
    rw [exec_bind_ok (hx ev' g), exec_bind_ok hxs]
    exact hf a rfl

/-- What a computation does with the session must not depend on the environment. -/
lemma get_at {f : Session → Run β} (hg : ∀ s : Session, f (s.amid g) = f s)
    (hf : ∀ s, P s → (f s).BlindAt ev ev' g P s) :
    (MonadState.get >>= f : Run β).Blind ev ev' g P := by
  intro s h
  unfold BlindAt
  rw [exec_bind_ok (exec_get ev' _), exec_bind_ok (exec_get ev s), hg]
  exact hf s h

lemma get {f : Session → Run β} (hg : ∀ s : Session, f (s.amid g) = f s)
    (hf : ∀ s, (f s).Blind ev ev' g P) : (MonadState.get >>= f : Run β).Blind ev ev' g P :=
  get_at hg fun s => hf s s

/-- What is read of an evaluator has to be the same in both. -/
lemma read {f : Evaluator → Run β} (he : f ev' = f ev) (hf : (f ev).Blind ev ev' g P) :
    (MonadReader.read >>= f : Run β).Blind ev ev' g P := by
  intro s h
  unfold BlindAt
  rw [exec_bind_ok (exec_read ev' _), exec_bind_ok (exec_read ev s), he]
  exact hf s h

lemma map (f : α → β) (hm : m.Blind ev ev' g P) : (f <$> m).Blind ev ev' g P := by
  rw [← bind_pure_comp]
  exact hm.bind fun _ => .pure _

lemma tryCatch {h : Fault → Run α} (hm : m.Blind ev ev' g P) (hh : ∀ e, (h e).Blind ev ev' g P) :
    (MonadExcept.tryCatch m h).Blind ev ev' g P := by
  intro s hs
  obtain ⟨he, ht⟩ := hm s hs
  unfold BlindAt
  rw [exec_tryCatch, exec_tryCatch, he]
  rcases hx : m.exec ev s with ⟨e | a, t⟩ <;> rw [hx] at ht
  · exact hh e t ht
  · exact ⟨rfl, ht⟩

lemma mapM {f : α → Run β} {as : List α} (h : ∀ a ∈ as, (f a).Blind ev ev' g P) :
    (as.mapM f).Blind ev ev' g P := by
  induction as with
  | nil => exact .pure _
  | cons a as ih =>
    rw [List.mapM_cons]
    exact .bind (h a List.mem_cons_self) fun b =>
      .bind (ih fun a ha => h a (List.mem_cons_of_mem _ ha)) fun bs => .pure _

lemma box (id : Nat) : (Run.box id).Blind ev ev' g P := by
  refine .get (fun _ => rfl) fun s => ?_
  cases s.boxes[id]? with
  | none => exact .throw _
  | some b => exact .pure b

lemma cursor (id : Nat) : (Run.cursor id).Blind ev ev' g P := by
  refine .get (fun _ => rfl) fun s => ?_
  cases s.cursors[id]? with
  | none => exact .throw _
  | some c => exact .pure c

lemma composer (id : Nat) : (Run.composer id).Blind ev ev' g P := by
  refine .get (fun _ => rfl) fun s => ?_
  cases s.composers[id]? with
  | none => exact .throw _
  | some c => exact .pure c

end Run.Blind

namespace Run.Keeps

variable {α β : Type} {ev : Evaluator} {P : Session → Prop} {m : Run α}

lemma bind {f : α → Run β} (hm : m.Keeps ev P) (hf : ∀ a, (f a).Keeps ev P) :
    (m >>= f).Keeps ev P :=
  (Blind.bind (.of_keeps hm) fun a => .of_keeps (hf a)).keeps

lemma box (i : Nat) : (Run.box i).Keeps ev P :=
  (Blind.box i : (Run.box i).Blind ev ev id P).keeps

lemma cursor (i : Nat) : (Run.cursor i).Keeps ev P :=
  (Blind.cursor i : (Run.cursor i).Blind ev ev id P).keeps

end Run.Keeps

/-! ### Outcomes that agree -/

/-- The outcome of a computation is a fault that was to be expected, or what was to be
expected. -/
inductive Agrees {α β : Type} (A : α → β → Prop) : Except Fault α → Except Fault β → Prop
  | ok {a : α} {b : β} : A a b → Agrees A (.ok a) (.ok b)
  | error (e : Fault) : Agrees A (.error e) (.error e)

lemma Agrees.self {α : Type} {A : α → α → Prop} {x : Except Fault α}
    (h : ∀ a, x = .ok a → A a a) : Agrees A x x := by
  cases x with
  | ok a => exact .ok (h a rfl)
  | error e => exact .error e

lemma Agrees.mono {α β : Type} {A A' : α → β → Prop} {x : Except Fault α} {y : Except Fault β}
    (h : Agrees A x y) (ha : ∀ a b, A a b → A' a b) : Agrees A' x y := by
  cases h with
  | ok h => exact .ok (ha _ _ h)
  | error e => exact .error e

/-- What is known on a condition is known of the same results. -/
lemma Agrees.and_imp {α β : Type} {A B : α → β → Prop} {H : Prop} {x : Except Fault α}
    {y : Except Fault β} (h : Agrees A x y) (h' : H → Agrees B x y) :
    Agrees (fun a b => A a b ∧ (H → B a b)) x y := by
  cases h with
  | ok hab =>
    refine .ok ⟨hab, fun hH => ?_⟩
    cases h' hH with
    | ok hab' => exact hab'
  | error e => exact .error e

lemma Agrees.bind {α β γ δ : Type} {A : α → β → Prop} {B : γ → δ → Prop} {x : Except Fault α}
    {y : Except Fault β} {f : α → Except Fault γ} {g : β → Except Fault δ} (h : Agrees A x y)
    (hf : ∀ a b, A a b → Agrees B (f a) (g b)) : Agrees B (x >>= f) (y >>= g) := by
  cases h with
  | ok h => exact hf _ _ h
  | error e => exact .error e

lemma Agrees.map {α β γ δ : Type} {A : α → β → Prop} {B : γ → δ → Prop} {x : Except Fault α}
    {y : Except Fault β} {f : α → γ} {g : β → δ} (h : Agrees A x y)
    (hf : ∀ a b, A a b → B (f a) (g b)) : Agrees B (f <$> x) (g <$> y) := by
  cases h with
  | ok h => exact .ok (hf _ _ h)
  | error e => exact .error e

lemma Agrees.join {α β γ δ : Type} {A : α → β → Prop} {B : γ → δ → Prop} {L : δ → β → Prop}
    {C : α → γ → Prop} {x : Except Fault α} {p : Except Fault β} {y : Except Fault γ}
    {q : Except Fault δ} (hx : Agrees A x p) (hy : Agrees B y q) (hq : Agrees L q p)
    (h : ∀ a b c d, A a b → B c d → L d b → C a c) : Agrees C x y := by
  cases hq with
  | ok hl =>
    cases hx with
    | ok ha =>
      cases hy with
      | ok hb => exact .ok (h _ _ _ _ ha hb hl)
  | error e =>
    cases hx
    cases hy
    exact .error e

lemma Agrees.eq_map {α β : Type} {g : β → α} {x : Except Fault α} {y : Except Fault β}
    (h : Agrees (fun a b => a = g b) x y) : x = g <$> y := by
  cases h with
  | ok h => rw [h]; rfl
  | error e => rfl

/-! ### Parallel runs -/

/-- Two computations, each from a session of its own, have outcomes that agree. What is known of
the sessions before is known of them afterwards. -/
def Run.Matches {α β : Type} (ev : Evaluator) (P Q : Session → Prop) (A : α → β → Prop) (m : Run α)
    (n : Run β) : Prop :=
  ∀ s t, P s → Q t → Agrees A (m.exec ev s).1 (n.exec ev t).1 ∧
    P (m.exec ev s).2 ∧ Q (n.exec ev t).2

namespace Run.Matches

variable {α β γ δ : Type} {ev : Evaluator} {P Q : Session → Prop} {A : α → β → Prop}
  {B : γ → δ → Prop}

lemma pure {a : α} {b : β} (h : A a b) :
    Matches ev P Q A (Pure.pure a : Run α) (Pure.pure b : Run β) :=
  fun _ _ hs ht => ⟨.ok h, hs, ht⟩

lemma bind {m : Run α} {n : Run β} {f : α → Run γ} {g : β → Run δ} (h : Matches ev P Q A m n)
    (hf : ∀ a b, A a b → Matches ev P Q B (f a) (g b)) :
    Matches ev P Q B (m >>= f) (n >>= g) := by
  intro s t hs ht
  obtain ⟨hab, hs', ht'⟩ := h s t hs ht
  rw [exec_bind, exec_bind]
  rcases hm : m.exec ev s with ⟨x, s'⟩
  rcases hn : n.exec ev t with ⟨y, t'⟩
  rw [hm] at hab hs'
  rw [hn] at hab ht'
  cases hab with
  | ok hab => exact hf _ _ hab s' t' hs' ht'
  | error e => exact ⟨.error e, hs', ht'⟩

lemma throw (e : Fault) :
    Matches ev P Q A (MonadExcept.throw e : Run α) (MonadExcept.throw e : Run β) :=
  fun _ _ hs ht => ⟨.error e, hs, ht⟩

/-- What only looks leaves the sessions as they are. -/
lemma look {m : Run α} {n : Run β} {x : Except Fault α} {y : Except Fault β}
    (hm : ∀ s, P s → m.exec ev s = (x, s)) (hn : ∀ t, Q t → n.exec ev t = (y, t))
    (h : Agrees A x y) : Matches ev P Q A m n := by
  intro s t hs ht
  rw [hm s hs, hn t ht]
  exact ⟨h, hs, ht⟩

lemma lift {x : Except Fault α} {y : Except Fault β} (h : Agrees A x y) :
    Matches ev P Q A (liftM x : Run α) (liftM y : Run β) :=
  fun _ _ hs ht => ⟨h, hs, ht⟩

/-- It is enough to know what the computations do from such sessions. -/
lemma congr {m m' : Run α} {n n' : Run β} (h : Matches ev P Q A m' n')
    (hm : ∀ s, P s → m.exec ev s = m'.exec ev s) (hn : ∀ t, Q t → n.exec ev t = n'.exec ev t) :
    Matches ev P Q A m n := by
  intro s t hs ht
  rw [hm s hs, hn t ht]
  exact h s t hs ht

lemma mono {A' : α → β → Prop} {m : Run α} {n : Run β} (h : Matches ev P Q A m n)
    (ha : ∀ a b, A a b → A' a b) : Matches ev P Q A' m n := by
  intro s t hs ht
  obtain ⟨hab, hs', ht'⟩ := h s t hs ht
  exact ⟨hab.mono ha, hs', ht'⟩

lemma mapM_of_mem {ι : Type} {f : ι → Run α} {g : ι → Run β} {is : List ι}
    (h : ∀ i ∈ is, Matches ev P Q A (f i) (g i)) :
    Matches ev P Q (List.Forall₂ A) (is.mapM f) (is.mapM g) := by
  induction is with
  | nil => exact .pure .nil
  | cons i is ih =>
    rw [List.mapM_cons, List.mapM_cons]
    exact .bind (h i List.mem_cons_self) fun _ _ ha =>
      .bind (ih fun i hi => h i (List.mem_cons_of_mem _ hi)) fun _ _ hs => .pure (.cons ha hs)

lemma mapM {ι : Type} {f : ι → Run α} {g : ι → Run β} (h : ∀ i, Matches ev P Q A (f i) (g i))
    (is : List ι) : Matches ev P Q (List.Forall₂ A) (is.mapM f) (is.mapM g) :=
  mapM_of_mem fun i _ => h i

end Run.Matches

end LayoutTree
