import LayoutTree.Proofs.Block.Language

/-!
A generator block runs its statements once each in order, and what it yields is converted before
the next statement runs.

This is told statement by statement, without draws. A block may also yield something that draws
from the block itself; then statements run inside of a conversion.
-/

namespace LayoutTree

open Run Block

/-- The session with something else in the place of a cursor. -/
def Session.withCursor (s : Session) (id : Nat) (c : Cursor) : Session :=
  { s with cursors := s.cursors.setIfInBounds id c }

/-- From a session on, a generator runs statements once each, in order, and the values that it
yields have these nodes one after the other. The first statement that fails, or the first value that
has no frontier, ends the run. While a value is converted the generator stays where it is. -/
inductive Performs (ev : Evaluator) (g : Nat) :
    List (Action × Expr) → Session → Except Fault (List Value) → Session → Prop
  | done {s} : Performs ev g [] s (.ok []) (s.withCursor g ⟨.statements [], false⟩)
  | raised {action e rest s f t} :
      (evaluate e).exec ev (s.withCursor g ⟨.statements rest, true⟩) = (.error f, t) →
      Performs ev g ((action, e) :: rest) s (.error f) (t.withCursor g ⟨.statements [], false⟩)
  | run {e rest s v t r u} :
      (evaluate e).exec ev (s.withCursor g ⟨.statements rest, true⟩) = (.ok v, t) →
      Performs ev g rest t r u → Performs ev g ((.run, e) :: rest) s r u
  | yielded {e rest s v t ns u r w} :
      (evaluate e).exec ev (s.withCursor g ⟨.statements rest, true⟩) = (.ok v, t) →
      Frontier ev (ev.depth + 1) v (t.withCursor g ⟨.statements rest, false⟩) (.ok ns) u →
      u.cursors[g]? = some ⟨.statements rest, false⟩ → Performs ev g rest u r w →
      Performs ev g ((.yield, e) :: rest) s ((ns ++ ·) <$> r) w
  | refused {e rest s v t f u} :
      (evaluate e).exec ev (s.withCursor g ⟨.statements rest, true⟩) = (.ok v, t) →
      Frontier ev (ev.depth + 1) v (t.withCursor g ⟨.statements rest, false⟩) (.error f) u →
      Performs ev g ((.yield, e) :: rest) s (.error f) u

/-- A generator yields a value whose conversion does not leave the generator where it was. -/
inductive Resumes (ev : Evaluator) (g : Nat) : List (Action × Expr) → Session → Prop
  | here {e rest s v t ns u} :
      (evaluate e).exec ev (s.withCursor g ⟨.statements rest, true⟩) = (.ok v, t) →
      Frontier ev (ev.depth + 1) v (t.withCursor g ⟨.statements rest, false⟩) (.ok ns) u →
      u.cursors[g]? ≠ some ⟨.statements rest, false⟩ → Resumes ev g ((.yield, e) :: rest) s
  | run {e rest s v t} :
      (evaluate e).exec ev (s.withCursor g ⟨.statements rest, true⟩) = (.ok v, t) →
      Resumes ev g rest t → Resumes ev g ((.run, e) :: rest) s
  | yielded {e rest s v t ns u} :
      (evaluate e).exec ev (s.withCursor g ⟨.statements rest, true⟩) = (.ok v, t) →
      Frontier ev (ev.depth + 1) v (t.withCursor g ⟨.statements rest, false⟩) (.ok ns) u →
      u.cursors[g]? = some ⟨.statements rest, false⟩ → Resumes ev g rest u →
      Resumes ev g ((.yield, e) :: rest) s

/-! ### Advancing by statements -/

section Advancing

variable {ev : Evaluator} {g : Nat} {action : Action} {e : Expr} {rest body : List (Action × Expr)}
  {s s₀ t u : Session} {f : Fault} {v : Value} {r : Except Fault (List Value)}

lemma exec_draw_statements (h : s.cursors[g]? = some ⟨.statements body, false⟩) :
    (draw g).exec ev s = (advance g body).exec ev s := by
  unfold draw
  rw [exec_bind_ok (exec_cursor ev h)]
  rfl

lemma exec_advance_raised
    (h : (evaluate e).exec ev (s.withCursor g ⟨.statements rest, true⟩) = (.error f, t)) :
    (advance g ((action, e) :: rest)).exec ev s =
      (.error f, t.withCursor g ⟨.statements [], false⟩) := by
  have hc : (setCursor g ⟨.statements rest, true⟩).exec ev s =
      (.ok (), s.withCursor g ⟨.statements rest, true⟩) := rfl
  rw [advance, exec_bind_ok hc]
  apply exec_bind_error
  rw [exec_tryCatch, h]
  rfl

lemma exec_advance
    (h : (evaluate e).exec ev (s.withCursor g ⟨.statements rest, true⟩) = (.ok v, t)) :
    (advance g ((action, e) :: rest)).exec ev s = match action with
      | .run => (advance g rest).exec ev t
      | .yield => (.ok (some v), t.withCursor g ⟨.statements rest, false⟩) := by
  have hc : (setCursor g ⟨.statements rest, true⟩).exec ev s =
      (.ok (), s.withCursor g ⟨.statements rest, true⟩) := rfl
  have ht : (tryCatch (evaluate e) fun f => do
      setCursor g ⟨.statements [], false⟩
      throw f).exec ev (s.withCursor g ⟨.statements rest, true⟩) = (.ok v, t) := by
    rw [exec_tryCatch, h]
  rw [advance, exec_bind_ok hc, exec_bind_ok ht]
  cases action <;> rfl

/-- What a generator performs is what is drawn from it. The draw that is under way when a statement
is reached may have begun some statements before, in another session. -/
lemma Performs.frontierDrawn (h : Performs ev g body s r t)
    (hd : (draw g).exec ev s₀ = (advance g body).exec ev s) {k : Nat} (hk : body.length < k) :
    FrontierDrawn ev (ev.depth + 1) g k s₀ r t := by
  obtain ⟨k, rfl⟩ : ∃ m, k = m + 1 := ⟨k - 1, by omega⟩
  induction h generalizing s₀ k with
  | done => exact .done hd
  | raised he => exact .failed (by rw [hd, exec_advance_raised he])
  | run he _ ih =>
    rw [exec_advance he] at hd
    exact ih hd k (by simp at hk; omega)
  | yielded he hf hc _ ih =>
    rw [exec_advance he] at hd
    obtain ⟨m, rfl⟩ : ∃ m, k = m + 1 := ⟨k - 1, by simp at hk; omega⟩
    exact .next hd hf (ih (exec_draw_statements hc) m (by simp at hk; omega))
  | refused he hf =>
    rw [exec_advance he] at hd
    exact .stop hd hf

/-- **Alternatives**: as long as builders build nodes, a generator either performs its statements,
or it yields something that resumes it. -/
lemma performs_or_resumes (hs : ∀ t, s.Leads ev t → t.Builds ev) (h : s.Leads ev s₀)
    (hd : (draw g).exec ev s₀ = (advance g body).exec ev t) :
    (∃ r u, Performs ev g body t r u) ∨ Resumes ev g body t := by
  induction body generalizing s₀ t with
  | nil => exact .inl ⟨_, _, .done⟩
  | cons st rest ih =>
    obtain ⟨action, e⟩ := st
    rcases he : (evaluate e).exec ev (t.withCursor g ⟨.statements rest, true⟩) with ⟨f | v, u⟩
    · exact .inl ⟨_, _, .raised he⟩
    rw [exec_advance he] at hd
    cases action with
    | run =>
      rcases ih h hd with ⟨r, w, hr⟩ | hr
      · exact .inl ⟨r, w, .run he hr⟩
      · exact .inr (.run he hr)
    | yield =>
      have hu : s.Leads ev (u.withCursor g ⟨.statements rest, false⟩) := by
        have := h.draw g
        rwa [hd] at this
      obtain ⟨r, w, hf, hw⟩ := exists_frontier hs (ev.depth + 1) v hu
      cases r with
      | error f => exact .inl ⟨_, w, .refused he hf⟩
      | ok ns =>
        by_cases hc : w.cursors[g]? = some ⟨.statements rest, false⟩
        · -- the conversion left the block alone
          rcases ih hw (exec_draw_statements hc) with ⟨r, x, hr⟩ | hr
          · exact .inl ⟨_, x, .yielded he hf hc hr⟩
          · exact .inr (.yielded he hf hc hr)
        · -- it drew from the block itself
          exact .inr (.here he hf hc)

end Advancing

/-- A block that gives a generator is resolved to the nodes that the generator performs. -/
lemma Performs.gives {ev : Evaluator} {s t u : Session} {block : Value} {kind : CursorKind}
    {g : Nat} {body : List (Action × Expr)} {r : Except Fault (List Value)}
    (h : Performs ev g body s r t) (hb : isCallable block = true)
    (hc : (call block .none).exec ev u = (.ok (.cursor kind g), s))
    (hg : s.cursors[g]? = some ⟨.statements body, false⟩) : Gives ev (Block.node block) u r t := by
  have hl : s.pendingLength g = body.length := by
    unfold Session.pendingLength
    rw [hg]
    rfl
  rw [Gives, exec_node hb hc]
  apply exec_resolved_cursor
  exact h.frontierDrawn (exec_draw_statements hg) (by omega)

end LayoutTree
