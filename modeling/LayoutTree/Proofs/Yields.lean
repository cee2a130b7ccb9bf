import LayoutTree.Proofs.Exec

/-!
What a computation yields where it succeeds, as long as the sessions in which it runs have a
property that it keeps. There is a law for each operation from which computations are built.
-/

namespace LayoutTree

/-- From sessions with a property a computation leads to sessions with it, also where it fails, and
what it gives has another property. -/
def Run.Yields {α : Type} (m : Run α) (ev : Evaluator) (I : Session → Prop) (P : α → Prop) : Prop :=
  ∀ s, I s → I (m.exec ev s).2 ∧ ∀ a, (m.exec ev s).1 = .ok a → P a

namespace Run.Yields

variable {α β : Type} {ev : Evaluator} {I : Session → Prop} {P : α → Prop} {Q : β → Prop}
  {m : Run α}

lemma of_keeps (h : m.Keeps ev I) : m.Yields ev I fun _ => True :=
  fun s hs => ⟨h s hs, fun _ _ => trivial⟩

lemma mono {P' : α → Prop} (h : m.Yields ev I P) (hp : ∀ a, P a → P' a) : m.Yields ev I P' :=
  fun s hs => ⟨(h s hs).1, fun a ha => hp a ((h s hs).2 a ha)⟩

lemma pure {a : α} (h : P a) : (Pure.pure a : Run α).Yields ev I P := by
  refine fun s hs => ⟨hs, fun b hb => ?_⟩
  cases hb
  exact h

lemma throw (e : Fault) : (MonadExcept.throw e : Run α).Yields ev I P := by
  refine fun s hs => ⟨hs, fun b hb => ?_⟩
  cases hb

lemma bind {f : α → Run β} (hm : m.Yields ev I P) (hf : ∀ a, P a → (f a).Yields ev I Q) :
    (m >>= f).Yields ev I Q := by
  intro s hs
  obtain ⟨ht, hr⟩ := hm s hs
  rw [exec_bind]
  rcases hx : m.exec ev s with ⟨e | a, t⟩ <;> rw [hx] at ht hr
  · exact ⟨ht, fun b hb => by cases hb⟩
  · exact hf a (hr a rfl) t ht

lemma map {f : α → β} (hm : m.Yields ev I P) (hf : ∀ a, P a → Q (f a)) :
    (f <$> m).Yields ev I Q := by
  rw [← bind_pure_comp]
  exact hm.bind fun a ha => .pure (hf a ha)

lemma tryCatch {g : Fault → Run α} (hm : m.Yields ev I P) (hg : ∀ e, (g e).Yields ev I P) :
    (MonadExcept.tryCatch m g).Yields ev I P := by
  intro s hs
  obtain ⟨ht, hr⟩ := hm s hs
  rw [exec_tryCatch]
  rcases hx : m.exec ev s with ⟨e | a, t⟩ <;> rw [hx] at ht hr
  · exact hg e t ht
  · exact ⟨ht, hr⟩

lemma cons {x : Run α} {xs : Run (List α)} (h : x.Yields ev I P)
    (hs : xs.Yields ev I fun as => ∀ a ∈ as, P a) :
    (do return (← x) :: (← xs) : Run (List α)).Yields ev I fun as => ∀ a ∈ as, P a :=
  h.bind fun _ ha => hs.bind fun _ has => .pure (List.forall_mem_cons.2 ⟨ha, has⟩)

lemma mapM_of_mem {γ : Type} {f : γ → Run α} {cs : List γ}
    (h : ∀ c ∈ cs, (f c).Yields ev I P) : (cs.mapM f).Yields ev I fun as => ∀ a ∈ as, P a := by
  induction cs with
  | nil => exact .pure fun a ha => absurd ha List.not_mem_nil
  | cons c cs ih =>
    obtain ⟨hc, hcs⟩ := List.forall_mem_cons.1 h
    rw [List.mapM_cons]
    exact .cons hc (ih hcs)

lemma mapM {γ : Type} {f : γ → Run α} (h : ∀ c, (f c).Yields ev I P) (cs : List γ) :
    (cs.mapM f).Yields ev I fun as => ∀ a ∈ as, P a :=
  mapM_of_mem fun c _ => h c

end Run.Yields

/-! ### What is made of elements -/

namespace Run

variable {α : Type} {ev : Evaluator} {P : α → Prop} {f : Value → Run α}

/-- Whatever holds of what is made of any value holds of what is made of the elements of a value,
however they are come by. -/
lemma yields_forElements (h : ∀ x, (f x).Yields ev (fun _ => True) P) (v : Value) :
    (forElements v f).Yields ev (fun _ => True) fun as => ∀ a ∈ as, P a := by
  have hany : ∀ {β : Type} (m : Run β), m.Yields ev (fun _ => True) fun _ => True := fun m =>
    .of_keeps fun _ _ => trivial
  have hdrawn : ∀ id n, (drawn id f n).Yields ev (fun _ => True) fun as => ∀ a ∈ as, P a := by
    intro id n
    induction n with
    | zero => exact .pure fun a ha => absurd ha List.not_mem_nil
    | succ n ih =>
      refine .bind (hany _) fun o _ => ?_
      rcases o with _ | x
      · exact .pure fun a ha => absurd ha List.not_mem_nil
      · exact .cons (h x) ih
  have hnumbers : ∀ n first,
      (forNumbers f first n).Yields ev (fun _ => True) fun as => ∀ a ∈ as, P a := by
    intro n
    induction n with
    | zero => exact fun _ => .pure fun a ha => absurd ha List.not_mem_nil
    | succ n ih => exact fun first => .cons (h _) (ih (first + 1))
  unfold forElements
  split
  · -- a cursor
    exact .bind (hany _) fun _ _ => hdrawn _ _
  · -- a range
    exact hnumbers _ _
  · -- elements that are at hand
    refine .bind (hany _) fun o _ => ?_
    rcases o with _ | xs
    · exact .throw _
    · exact .mapM h xs

end Run

end LayoutTree
