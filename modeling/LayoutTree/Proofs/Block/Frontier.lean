import LayoutTree.Proofs.Block.Span

/-!
The frontier of a value in a block: the nodes that are met when it is gone through from left to
right, or the fault of the first place that has no node.

A frontier says nothing of the fragments that values become on the way. It is told for sequences
of every type at once, and for cursors draw by draw, so that a frontier also says in which session
each builder is built and which elements were drawn. There is never more than one.
-/

namespace LayoutTree

open Run

namespace Value

/-- The fields of a value and what is attached to it, unless an underscore hides it, each as a
pair with its name. -/
def pairsIn (s : Session) (v : Value) (fs : Fields) : List Value :=
  (fs ++ ((v.identity?.map s.attributesOf).getD []).filter fun f => !f.1.startsWith "_").map
    fun f => .tuple [.text f.1, f.2]

/-- The elements that a value without a cursor has in a block: none for nodes, texts and byte
strings, pairs for other layout values, and the keys of a dict. -/
def sequence? (s : Session) (v : Value) : Option (List Value) :=
  match v with
  | .bytes _ => none
  | v =>
    if v.isNode || v.text?.isSome then none
    else
      match v.fields? with
      | some fs => some (v.pairsIn s fs)
      | none => v.elements?

/-- The value has no place in a block. -/
def isStranger (s : Session) (v : Value) : Bool :=
  match v with
  | .null => false
  | .box .. => false
  | .cursor .. => false
  | v => !v.isNode && (v.sequence? s).isNone

/-- Why a value has no place in a block. -/
def refusal (s : Session) (v : Value) : Fault :=
  match v with
  | .bytes _ => .textInBlock (v.written s.loggerWritten)
  | _ =>
    if v.text?.isSome then .textInBlock (v.written s.loggerWritten)
    else .strangerInBlock v.typeName

end Value

namespace Session

/-- How much a cursor has yet to give. -/
def pendingLength (s : Session) (id : Nat) : Nat :=
  (s.cursors[id]?.map (·.pending.length)).getD 0

/-- The session once a sequence was gone through: if all went well, a fragment was made. -/
def wrapped {α : Type} (s : Session) : Except Fault α → Session
  | .ok _ => s.fragmented
  | .error _ => s

end Session

mutual

/-- From a session on, a value in a block has these nodes or fails with this fault, and leaves
that session behind. Cursors in it are nested less than so many levels deep. -/
inductive Frontier (ev : Evaluator) :
    Nat → Value → Session → Except Fault (List Value) → Session → Prop
  | tooDeep {v s} : Frontier ev 0 v s (.error .tooDeep) s
  | node {n v s} : v.isNode = true → Frontier ev (n + 1) v s (.ok [v]) s
  | built {n kind id s w t} : (Builder.node kind id).exec ev s = (.ok w, t) → w.isNode = true →
      Frontier ev (n + 1) (.box kind id) s (.ok [w]) t
  | unbuilt {n kind id s e t} : (Builder.node kind id).exec ev s = (.error e, t) →
      Frontier ev (n + 1) (.box kind id) s (.error e) t
  | null {n s} : Frontier ev (n + 1) .null s (.ok []) s.fragmented
  | sequence {n v xs s r t} : v.sequence? s = some xs → FrontierAll ev (n + 1) xs s r t →
      Frontier ev (n + 1) v s r (t.wrapped r)
  | cursor {n kind id s r t} : FrontierDrawn ev n id (s.pendingLength id + 1) s r t →
      Frontier ev (n + 1) (.cursor kind id) s r (t.wrapped r)
  | stranger {n v s} : v.isStranger s = true → Frontier ev (n + 1) v s (.error (v.refusal s)) s

/-- The frontiers of values one after the other, up to the first that fails. -/
inductive FrontierAll (ev : Evaluator) :
    Nat → List Value → Session → Except Fault (List Value) → Session → Prop
  | nil {n s} : FrontierAll ev n [] s (.ok []) s
  | cons {n x xs s ns t r u} : Frontier ev n x s (.ok ns) t → FrontierAll ev n xs t r u →
      FrontierAll ev n (x :: xs) s ((ns ++ ·) <$> r) u
  | stop {n x xs s e t} : Frontier ev n x s (.error e) t → FrontierAll ev n (x :: xs) s (.error e) t

/-- The frontiers of what a cursor gives within so many draws, each gone through before the next
draw. Nothing is drawn after a failure. -/
inductive FrontierDrawn (ev : Evaluator) :
    Nat → Nat → Nat → Session → Except Fault (List Value) → Session → Prop
  | bound {n id s} : FrontierDrawn ev n id 0 s (.ok []) s
  | done {n id k s t} : (draw id).exec ev s = (.ok none, t) →
      FrontierDrawn ev n id (k + 1) s (.ok []) t
  | failed {n id k s e t} : (draw id).exec ev s = (.error e, t) →
      FrontierDrawn ev n id (k + 1) s (.error e) t
  | next {n id k s x t ns u r w} : (draw id).exec ev s = (.ok (some x), t) →
      Frontier ev n x t (.ok ns) u → FrontierDrawn ev n id k u r w →
      FrontierDrawn ev n id (k + 1) s ((ns ++ ·) <$> r) w
  | stop {n id k s x t e u} : (draw id).exec ev s = (.ok (some x), t) →
      Frontier ev n x t (.error e) u → FrontierDrawn ev n id (k + 1) s (.error e) u

end

/-! ### There is one frontier -/

namespace Value

variable {s : Session} {v : Value} {xs : List Value}

lemma sequence?_of_isNode (h : v.isNode = true) : v.sequence? s = none := by
  cases v <;> first | rfl | cases h

lemma isStranger_of_isNode (h : v.isNode = true) : v.isStranger s = false := by
  cases v <;> first | rfl | cases h

lemma isStranger_of_sequence? (h : v.sequence? s = some xs) : v.isStranger s = false := by
  unfold isStranger
  split <;> simp [h]

end Value

section

variable {ev : Evaluator} {n : Nat} {v : Value} {s u : Session} {q : Except Fault (List Value)}

lemma Frontier.eq_of_isNode (h : Frontier ev (n + 1) v s q u) (hv : v.isNode = true) :
    .ok [v] = q ∧ s = u := by
  cases h with
  | node => exact ⟨rfl, rfl⟩
  | sequence hs => rw [Value.sequence?_of_isNode hv] at hs; cases hs
  | stranger hx => rw [Value.isStranger_of_isNode hv] at hx; cases hx
  | _ => cases hv

lemma Frontier.eq_of_stranger (h : Frontier ev (n + 1) v s q u) (hv : v.isStranger s = true) :
    .error (v.refusal s) = q ∧ s = u := by
  cases h with
  | node hn => rw [Value.isStranger_of_isNode hn] at hv; cases hv
  | sequence hs => rw [Value.isStranger_of_sequence? hs] at hv; cases hv
  | stranger => exact ⟨rfl, rfl⟩
  | _ => cases hv

lemma Frontier.of_box {kind : BoxKind} {id : Nat} (h : Frontier ev (n + 1) (.box kind id) s q u) :
    ∃ x, (Builder.node kind id).exec ev s = (x, u) ∧ q = (fun w => [w]) <$> x := by
  cases h with
  | node hv => cases hv
  | built hb => exact ⟨_, hb, rfl⟩
  | unbuilt hb => exact ⟨_, hb, rfl⟩
  | sequence hs => cases hs
  | stranger hx => cases hx

lemma Frontier.of_cursor {kind : CursorKind} {id : Nat}
    (h : Frontier ev (n + 1) (.cursor kind id) s q u) :
    ∃ t, FrontierDrawn ev n id (s.pendingLength id + 1) s q t ∧ u = t.wrapped q := by
  cases h with
  | node hv => cases hv
  | sequence hs => cases hs
  | cursor hd => exact ⟨_, hd, rfl⟩
  | stranger hx => cases hx

lemma Frontier.of_sequence {xs : List Value} (h : Frontier ev (n + 1) v s q u)
    (hs : v.sequence? s = some xs) :
    ∃ t, FrontierAll ev (n + 1) xs s q t ∧ u = t.wrapped q := by
  cases h with
  | node hv => rw [Value.sequence?_of_isNode hv] at hs; cases hs
  | sequence hs' hall =>
    rw [hs] at hs'
    cases hs'
    exact ⟨_, hall, rfl⟩
  | stranger hx => rw [Value.isStranger_of_sequence? hs] at hx; cases hx
  | _ => cases hs

end

section

variable {ev : Evaluator}

mutual

/-- **Uniqueness**: a value has one frontier, which leaves one session. -/
lemma Frontier.unique : ∀ {n v s r t q u}, Frontier ev n v s r t → Frontier ev n v s q u →
    r = q ∧ t = u
  | _, _, _, _, _, _, _, .tooDeep, h => by
    cases h
    exact ⟨rfl, rfl⟩
  | _, _, _, _, _, _, _, .node hv, h => h.eq_of_isNode hv
  | _, _, _, _, _, _, _, .built hb _, h => by
    obtain ⟨x, hx, rfl⟩ := h.of_box
    rw [hb] at hx
    cases hx
    exact ⟨rfl, rfl⟩
  | _, _, _, _, _, _, _, .unbuilt hb, h => by
    obtain ⟨x, hx, rfl⟩ := h.of_box
    rw [hb] at hx
    cases hx
    exact ⟨rfl, rfl⟩
  | _, _, _, _, _, _, _, .null, h => by
    cases h with
    | node hv => cases hv
    | null => exact ⟨rfl, rfl⟩
    | sequence hs => cases hs
    | stranger hx => cases hx
  | _, _, _, _, _, _, _, .sequence hs hall, h => by
    obtain ⟨w, hw, rfl⟩ := h.of_sequence hs
    obtain ⟨rfl, rfl⟩ := hall.unique hw
    exact ⟨rfl, rfl⟩
  | _, _, _, _, _, _, _, .cursor hd, h => by
    obtain ⟨w, hw, rfl⟩ := h.of_cursor
    obtain ⟨rfl, rfl⟩ := hd.unique hw
    exact ⟨rfl, rfl⟩
  | _, _, _, _, _, _, _, .stranger hx, h => h.eq_of_stranger hx

lemma FrontierAll.unique : ∀ {n xs s r t q u}, FrontierAll ev n xs s r t →
    FrontierAll ev n xs s q u → r = q ∧ t = u
  | _, _, _, _, _, _, _, .nil, h => by
    cases h
    exact ⟨rfl, rfl⟩
  | _, _, _, _, _, _, _, .cons hx hxs, h => by
    cases h with
    | cons hy hys =>
      obtain ⟨hns, rfl⟩ := hx.unique hy
      cases hns
      obtain ⟨rfl, rfl⟩ := hxs.unique hys
      exact ⟨rfl, rfl⟩
    | stop hy => cases (hx.unique hy).1
  | _, _, _, _, _, _, _, .stop hx, h => by
    cases h with
    | cons hy => cases (hx.unique hy).1
    | stop hy => exact hx.unique hy

lemma FrontierDrawn.unique : ∀ {n id k s r t q u}, FrontierDrawn ev n id k s r t →
    FrontierDrawn ev n id k s q u → r = q ∧ t = u
  | _, _, _, _, _, _, _, _, .bound, h => by
    cases h
    exact ⟨rfl, rfl⟩
  | _, _, _, _, _, _, _, _, .done hd, h => by
    cases h with
    | done hd' =>
      rw [hd] at hd'
      cases hd'
      exact ⟨rfl, rfl⟩
    | failed hd' | next hd' | stop hd' =>
      rw [hd] at hd'
      cases hd'
  | _, _, _, _, _, _, _, _, .failed hd, h => by
    cases h with
    | failed hd' =>
      rw [hd] at hd'
      cases hd'
      exact ⟨rfl, rfl⟩
    | done hd' | next hd' | stop hd' =>
      rw [hd] at hd'
      cases hd'
  | _, _, _, _, _, _, _, _, .next hd hx hxs, h => by
    cases h with
    | done hd' | failed hd' =>
      rw [hd] at hd'
      cases hd'
    | next hd' hy hys =>
      rw [hd] at hd'
      cases hd'
      obtain ⟨hns, rfl⟩ := hx.unique hy
      cases hns
      obtain ⟨rfl, rfl⟩ := hxs.unique hys
      exact ⟨rfl, rfl⟩
    | stop hd' hy =>
      rw [hd] at hd'
      cases hd'
      cases (hx.unique hy).1
  | _, _, _, _, _, _, _, _, .stop hd hx, h => by
    cases h with
    | done hd' | failed hd' =>
      rw [hd] at hd'
      cases hd'
    | next hd' hy =>
      rw [hd] at hd'
      cases hd'
      cases (hx.unique hy).1
    | stop hd' hy =>
      rw [hd] at hd'
      cases hd'
      exact hx.unique hy

end

end

end LayoutTree
