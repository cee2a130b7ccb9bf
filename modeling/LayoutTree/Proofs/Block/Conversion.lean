import LayoutTree.Proofs.Block.Frontier

/-!
Converting a value in a block gives what its frontier says: a node that spans the nodes of the
frontier, or its fault, and the session that the frontier leaves.

The induction is on the derivation of the frontier; what is no list or tuple fails at its first
element, so it needs no induction of its own.
-/

namespace LayoutTree

open Run Block

/-! ### Values that end a frontier at once -/

namespace Block

lemma range_eq_cons {n : Int} (h : 0 < n) :
    ∃ xs, (List.range n.toNat).map (fun i : Nat => Value.int i) = .int 0 :: xs := by
  obtain ⟨m, hm⟩ : ∃ m, n.toNat = m + 1 := ⟨n.toNat - 1, by omega⟩
  rw [hm, List.range_succ_eq_map]
  exact ⟨_, rfl⟩

/-- A sequence that is no list or tuple is empty, or it begins with something that has no place, or
with a pair that does. -/
lemma other_of_sequence? (deep : Value → Run Value) {s : Session} {v : Value} {xs : List Value}
    (h : v.sequence? s = some xs) :
    v = .list xs ∨ v = .tuple xs ∨ componentWith deep v = other v ∧
      (xs = [] ∧ other v = fragment [] ∨ ∃ x, x.isStranger s = true ∧ other v = refuse x ∧
        (xs.head? = some x ∨ ∃ y, xs.head? = some (.tuple [x, y]))) := by
  cases v with
  | list ys => exact .inl (by rw [Option.some.inj h])
  | tuple ys => exact .inr (.inl (by rw [Option.some.inj h]))
  | dict id fs =>
    obtain rfl := Option.some.inj h
    cases fs with
    | nil => exact .inr (.inr ⟨rfl, .inl ⟨rfl, rfl⟩⟩)
    | cons f fs => exact .inr (.inr ⟨rfl, .inr ⟨.text f.1, rfl, rfl, .inl rfl⟩⟩)
  | range n =>
    obtain rfl := Option.some.inj h
    refine .inr (.inr ⟨rfl, ?_⟩)
    by_cases hn : 0 < n
    · obtain ⟨ys, hys⟩ := range_eq_cons hn
      refine .inr ⟨.int 0, rfl, if_pos hn, .inl ?_⟩
      rw [hys]
      rfl
    · refine .inl ⟨?_, if_neg hn⟩
      have : n.toNat = 0 := by omega
      simp [this]
  | _ =>
    first
      | obtain rfl := Option.some.inj h
        exact .inr (.inr ⟨rfl, .inr ⟨.text _, rfl, rfl, .inr ⟨_, rfl⟩⟩⟩)
      | cases h

lemma exec_refuse (ev : Evaluator) (s : Session) (v : Value) :
    (refuse v).exec ev s = (.error (v.refusal s), s) := by
  cases v <;> rfl

end Block

section

variable {ev : Evaluator} {n : Nat} {s t : Session} {r : Except Fault (List Value)}

lemma FrontierAll.eq_of_stranger {x : Value} {xs : List Value}
    (h : FrontierAll ev (n + 1) (x :: xs) s r t) (hx : x.isStranger s = true) :
    Except.error (x.refusal s) = r ∧ s = t := by
  cases h with
  | cons hf => cases (hf.eq_of_stranger hx).1
  | stop hf => exact hf.eq_of_stranger hx

/-- A sequence fails at once if its first element, or the first part of it, has no place. -/
lemma FrontierAll.eq_of_head {x : Value} {xs : List Value} (h : FrontierAll ev (n + 1) xs s r t)
    (hx : x.isStranger s = true)
    (head : xs.head? = some x ∨ ∃ y, xs.head? = some (.tuple [x, y])) :
    Except.error (x.refusal s) = r ∧ s = t := by
  rcases xs with _ | ⟨y, xs⟩
  · rcases head with h | ⟨_, h⟩ <;> cases h
  rcases head with hy | ⟨z, hy⟩
  · -- the stranger comes first
    cases hy
    exact h.eq_of_stranger hx
  · -- a pair comes first, with the stranger in it
    cases hy
    have hpair : ∀ {q u}, Frontier ev (n + 1) (.tuple [x, z]) s q u →
        Except.error (x.refusal s) = q ∧ s = u := by
      intro q u hf
      cases hf with
      | node hn => cases hn
      | stranger hv => cases hv
      | sequence hs hall =>
        cases hs
        obtain ⟨rfl, rfl⟩ := hall.eq_of_stranger hx
        exact ⟨rfl, rfl⟩
    cases h with
    | cons hf => cases (hpair hf).1
    | stop hf => exact hpair hf

end

/-! ### Conversion follows the frontier -/

namespace Block

lemma componentsWith_eq_mapM (deep : Value → Run Value) (xs : List Value) :
    componentsWith deep xs = xs.mapM (componentWith deep) := by
  induction xs with
  | nil => rfl
  | cons x xs ih => rw [componentsWith, List.mapM_cons, ih]

/-- The nodes of a sequence become a fragment. -/
lemma exec_wrap {ev : Evaluator} {s t : Session} {m : Run (List Value)}
    {x r : Except Fault (List Value)} (h : m.exec ev s = (x, t)) (hx : Agrees Node.AllSpan x r) :
    ∃ y, (m >>= fragment).exec ev s = (y, t.wrapped r) ∧ Agrees Node.Spans y r := by
  cases hx with
  | error e => exact ⟨_, exec_bind_error h, .error e⟩
  | ok hws =>
    refine ⟨_, ?_, .ok (hws.fragment (t.serial + 1) (.text "fragment"))⟩
    rw [exec_bind_ok h, exec_fragment ev t hws.isNode]
    rfl

lemma exec_forDrawn (ev : Evaluator) (s : Session) (id : Nat) (f : Value → Run Value) :
    (forDrawn id f).exec ev s = (drawn id f (s.pendingLength id + 1)).exec ev s := by
  unfold forDrawn Session.pendingLength
  rcases hc : s.cursors[id]? with _ | c
  · have hn := exec_cursor_missing ev hc
    have hd : (draw id).exec ev s = (.error .wrongArguments, s) := exec_bind_error hn
    rw [exec_bind_error hn]
    exact (exec_bind_error hd).symm
  · have hn := exec_cursor ev hc
    rw [exec_bind_ok hn]
    rfl

end Block

section Steps

open Node

variable {ev : Evaluator} {n : Nat} {s t : Session} {r : Except Fault (List Value)}

lemma exec_stranger {v : Value} (h : v.isStranger s = true) :
    (componentWithin (n + 1) v).exec ev s = (.error (v.refusal s), s) := by
  have hv : componentWith (componentWithin n) v = refuse v := by
    cases v <;> first | rfl | cases h
  rw [componentWithin, hv, exec_refuse]

/-- A sequence becomes a fragment of what its elements become. -/
lemma exec_sequence {v : Value} {xs : List Value} {x : Except Fault (List Value)}
    (hs : v.sequence? s = some xs) (hall : FrontierAll ev (n + 1) xs s r t)
    (h : (xs.mapM (componentWithin (n + 1))).exec ev s = (x, t)) (hx : Agrees AllSpan x r) :
    ∃ y, (componentWithin (n + 1) v).exec ev s = (y, t.wrapped r) ∧ Agrees Spans y r := by
  have hc : (componentsWith (componentWithin n) xs).exec ev s = (x, t) := by
    rw [componentsWith_eq_mapM]
    exact h
  rcases other_of_sequence? (componentWithin n) hs with rfl | rfl | ⟨hv, hxs⟩
  · exact exec_wrap hc hx
  · exact exec_wrap hc hx
  · rw [componentWithin, hv]
    rcases hxs with ⟨rfl, ho⟩ | ⟨y, hy, ho, head⟩
    · rw [ho]
      cases hall
      exact ⟨_, exec_fragment ev s (by simp), .ok (AllSpan.nil.fragment _ _)⟩
    · obtain ⟨rfl, rfl⟩ := hall.eq_of_head hy head
      rw [ho]
      exact ⟨_, exec_refuse ev _ y, .error _⟩

lemma exec_cons {m : Run (List Value)} {w : Value} {y : Except Fault (List Value)}
    {ns : List Value} (h : m.exec ev s = (y, t)) (hy : Agrees AllSpan y r) (hw : Spans w ns) :
    ∃ z, (do return w :: (← m) : Run (List Value)).exec ev s = (z, t) ∧
      Agrees AllSpan z ((ns ++ ·) <$> r) := by
  cases hy with
  | error e => exact ⟨_, exec_bind_error h, .error e⟩
  | ok hws => exact ⟨_, exec_bind_ok h, .ok (.cons hw hws)⟩

end Steps

section

variable {ev : Evaluator}

mutual

/-- Conversion gives what the frontier says, in the session that the frontier leaves. -/
lemma Frontier.exec_component : ∀ {n v s r t}, Frontier ev n v s r t →
    ∃ x, (componentWithin n v).exec ev s = (x, t) ∧ Agrees Node.Spans x r
  | _, _, _, _, _, .tooDeep => ⟨_, rfl, .error _⟩
  | _, v, _, _, _, .node hv => by
    refine ⟨.ok v, ?_, .ok (.self hv)⟩
    cases v <;> first | rfl | cases hv
  | _, _, _, _, _, .built hb hw => ⟨_, hb, .ok (.self hw)⟩
  | _, _, _, _, _, .unbuilt hb => ⟨_, hb, .error _⟩
  | _, _, s, _, _, .null => ⟨_, exec_emptyFragment ev s, .ok (Node.AllSpan.nil.fragment _ _)⟩
  | _, _, _, _, _, .sequence hs hall => by
    obtain ⟨x, hx, hxr⟩ := hall.exec_mapM
    exact exec_sequence hs hall hx hxr
  | _, _, s, _, _, .cursor hd => by
    obtain ⟨x, hx, hxr⟩ := hd.exec_drawn
    rw [← exec_forDrawn] at hx
    exact exec_wrap hx hxr
  | _, _, _, _, _, .stranger hv => ⟨_, exec_stranger hv, .error _⟩

lemma FrontierAll.exec_mapM : ∀ {n xs s r t}, FrontierAll ev n xs s r t →
    ∃ x, (xs.mapM (componentWithin n)).exec ev s = (x, t) ∧ Agrees Node.AllSpan x r
  | _, _, _, _, _, .nil => ⟨_, rfl, .ok .nil⟩
  | _, _, _, _, _, .cons hx hxs => by
    obtain ⟨x, hx, hxr⟩ := hx.exec_component
    obtain ⟨y, hy, hyr⟩ := hxs.exec_mapM
    cases hxr with
    | ok hw =>
      rw [List.mapM_cons, exec_bind_ok hx]
      exact exec_cons hy hyr hw
  | _, _, _, _, _, .stop hx => by
    obtain ⟨x, hx, hxr⟩ := hx.exec_component
    cases hxr with
    | error _ =>
      rw [List.mapM_cons]
      exact ⟨_, exec_bind_error hx, .error _⟩

lemma FrontierDrawn.exec_drawn : ∀ {n id k s r t}, FrontierDrawn ev n id k s r t →
    ∃ x, (drawn id (componentWithin n) k).exec ev s = (x, t) ∧ Agrees Node.AllSpan x r
  | _, _, _, _, _, _, .bound => ⟨_, rfl, .ok .nil⟩
  | _, _, _, _, _, _, .done hd => ⟨_, exec_bind_ok hd, .ok .nil⟩
  | _, _, _, _, _, _, .failed hd => ⟨_, exec_bind_error hd, .error _⟩
  | _, _, _, _, _, _, .next hd hx hxs => by
    obtain ⟨x, hx, hxr⟩ := hx.exec_component
    obtain ⟨y, hy, hyr⟩ := hxs.exec_drawn
    cases hxr with
    | ok hw =>
      rw [drawn, exec_bind_ok hd, exec_bind_ok hx]
      exact exec_cons hy hyr hw
  | _, _, _, _, _, _, .stop hd hx => by
    obtain ⟨x, hx, hxr⟩ := hx.exec_component
    cases hxr with
    | error _ =>
      rw [drawn, exec_bind_ok hd]
      exact ⟨_, exec_bind_error hx, .error _⟩

end

end

end LayoutTree
