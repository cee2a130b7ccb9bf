import LayoutTree.Proofs.Attribute
import LayoutTree.Proofs.Block.Conversion

/-!
Every value has a frontier, as long as builders give nodes when they are asked to build, which they
do unless a script has put something else in the place of their method.

The induction is on how deep cursors are nested, then on the value, then on the number of draws.
-/

namespace LayoutTree

open Run Block

/-- What builders give when they are asked to build are nodes. -/
def Session.Builds (ev : Evaluator) (s : Session) : Prop :=
  ∀ kind id w t, (Builder.node kind id).exec ev s = (.ok w, t) → w.isNode = true

/-- Builders give nodes unless a script has put something else in the place of their method. -/
lemma Session.builds_of_replaced? {ev : Evaluator} {s : Session}
    (h : ∀ kind id, s.replaced? (.box kind id) "build" = none) : s.Builds ev := by
  intro kind id w t hw
  unfold Builder.node at hw
  rw [exec_callMethodOr (h kind id)] at hw
  exact Builder.isNode_of_build hw

/-- Drawing from cursors, building and making fragments lead from one session to the other. -/
inductive Session.Leads (ev : Evaluator) (s : Session) : Session → Prop
  | refl : s.Leads ev s
  | draw {t} (id : Nat) : s.Leads ev t → s.Leads ev ((draw id).exec ev t).2
  | build {t} (kind : BoxKind) (id : Nat) : s.Leads ev t →
      s.Leads ev ((Builder.node kind id).exec ev t).2
  | fragment {t} : s.Leads ev t → s.Leads ev t.fragmented

/-! ### Where builders are left alone -/

section Keeping

variable {ev : Evaluator} {P : Session → Prop} {s t : Session}

/-- Building keeps what drawing from cursors and taking identities keep. -/
lemma keeps_node (hd : ∀ id, (draw id).Keeps ev P) (hn : ∀ s n, P s → P { s with serial := n })
    (hb : ∀ s, P s → ∀ kind id, s.replaced? (.box kind id) "build" = none) (kind : BoxKind)
    (id : Nat) : (Builder.node kind id).Keeps ev P := by
  intro s h
  unfold Builder.node
  rw [exec_callMethodOr (hb s h kind id)]
  exact Keeps.bind (.box id) (fun b => keeps_construct hd hn _ _) s h

/-- What drawing and taking identities keep holds wherever they lead. If methods are not replaced
there, builders build. -/
lemma Session.builds_of_leads (h : s.Leads ev t) (hd : ∀ id, (draw id).Keeps ev P)
    (hn : ∀ s n, P s → P { s with serial := n })
    (hb : ∀ s, P s → ∀ kind id, s.replaced? (.box kind id) "build" = none) (hs : P s) :
    t.Builds ev := by
  suffices ht : P t from builds_of_replaced? (hb t ht)
  induction h with
  | refl => exact hs
  | draw id _ ih => exact hd id _ ih
  | build kind id _ ih => exact keeps_node hd hn hb kind id _ ih
  | fragment _ ih => exact hn _ _ ih

/-- Nothing that is drawn is evaluated first, and no script has replaced how builders build. -/
structure Session.Inert (s : Session) : Prop where
  values : ∀ (id : Nat) (c : Cursor), s.cursors[id]? = some c → ∃ xs, c.pending = .values xs
  build : ∀ kind id, s.replaced? (.box kind id) "build" = none

lemma Session.Inert.keeps_draw (id : Nat) : (draw id).Keeps ev Session.Inert := by
  intro s h
  rcases hc : s.cursors[id]? with _ | c
  · have hd : (draw id).exec ev s = (.error .wrongArguments, s) :=
      exec_bind_error (exec_cursor_missing ev hc)
    rw [hd]
    exact h
  obtain ⟨xs, hxs⟩ := h.values id c hc
  unfold draw
  rw [exec_bind_ok (exec_cursor ev hc), hxs]
  rcases xs with _ | ⟨x, xs⟩
  · exact h
  · refine ⟨fun j d hd => ?_, h.build⟩
    change (s.cursors.setIfInBounds id ⟨.values xs, false⟩)[j]? = some d at hd
    rw [Array.getElem?_setIfInBounds] at hd
    split at hd
    · split at hd
      · cases hd
        exact ⟨xs, rfl⟩
      · cases hd
    · exact h.values j d hd

/-- Where nothing is evaluated builders build all along. -/
lemma Session.Inert.builds (hs : s.Inert) (h : s.Leads ev t) : t.Builds ev :=
  builds_of_leads h Session.Inert.keeps_draw (fun _ _ h => ⟨h.values, h.build⟩)
    (fun _ h => h.build) hs

end Keeping

/-! ### Existence -/

section Existence

variable {ev : Evaluator} {s t : Session} {n : Nat}

lemma Session.Leads.wrapped {α : Type} (h : s.Leads ev t) (r : Except Fault α) :
    s.Leads ev (t.wrapped r) := by
  cases r with
  | ok => exact h.fragment
  | error => exact h

/-- A builder has a frontier: its node, or why it has none. -/
lemma exists_frontier_box (hs : t.Builds ev) (h : s.Leads ev t) (kind : BoxKind) (id : Nat) :
    ∃ r u, Frontier ev (n + 1) (.box kind id) t r u ∧ s.Leads ev u := by
  have hu := h.build kind id
  rcases hb : (Builder.node kind id).exec ev t with ⟨e | w, u⟩ <;> rw [hb] at hu
  · exact ⟨_, u, .unbuilt hb, hu⟩
  · exact ⟨_, u, .built hb (hs kind id w u hb), hu⟩

/-- What a cursor gives has a frontier if everything less deep has one. -/
lemma exists_frontierDrawn
    (deep : ∀ v t, s.Leads ev t → ∃ r u, Frontier ev n v t r u ∧ s.Leads ev u) (id k : Nat)
    (h : s.Leads ev t) : ∃ r u, FrontierDrawn ev n id k t r u ∧ s.Leads ev u := by
  induction k generalizing t with
  | zero => exact ⟨_, t, .bound, h⟩
  | succ k ih =>
    have hu := h.draw id
    rcases hd : (draw id).exec ev t with ⟨e | x, u⟩ <;> rw [hd] at hu
    · exact ⟨_, u, .failed hd, hu⟩
    · cases x with
      | none => exact ⟨_, u, .done hd, hu⟩
      | some x =>
        obtain ⟨r, w, hx, hw⟩ := deep x u hu
        cases r with
        | error e => exact ⟨_, w, .stop hd hx, hw⟩
        | ok ns =>
          obtain ⟨q, y, hq, hy⟩ := ih hw
          exact ⟨_, y, .next hd hx hq, hy⟩

/-- Where the elements of a value have a frontier the value has one. -/
lemma exists_frontier_of_all (hs : ∀ t, s.Leads ev t → t.Builds ev)
    (deep : ∀ v t, s.Leads ev t → ∃ r u, Frontier ev n v t r u ∧ s.Leads ev u) (v : Value)
    (h : s.Leads ev t)
    (all : ∀ xs, v.sequence? t = some xs →
      ∃ r u, FrontierAll ev (n + 1) xs t r u ∧ s.Leads ev u) :
    ∃ r u, Frontier ev (n + 1) v t r u ∧ s.Leads ev u := by
  by_cases hv : v.isStranger t = true
  · exact ⟨_, t, .stranger hv, h⟩
  by_cases hn : v.isNode = true
  · exact ⟨_, t, .node hn, h⟩
  rcases hx : v.sequence? t with _ | xs
  · cases v with
    | null => exact ⟨_, _, .null, h.fragment⟩
    | box kind id => exact exists_frontier_box (hs t h) h kind id
    | cursor kind id =>
      obtain ⟨r, u, hd, hu⟩ := exists_frontierDrawn deep id (t.pendingLength id + 1) h
      exact ⟨r, _, .cursor hd, hu.wrapped r⟩
    | _ => first | exact absurd rfl hv | exact absurd rfl hn | cases hx
  · obtain ⟨r, u, hall, hu⟩ := all xs hx
    exact ⟨r, _, .sequence hx hall, hu.wrapped r⟩

/-- A sequence that begins with a stranger, or with a pair that does, fails there. -/
lemma exists_frontierAll_of_head {x : Value} {xs : List Value} (hx : x.isStranger t = true)
    (head : xs.head? = some x ∨ ∃ y, xs.head? = some (.tuple [x, y])) :
    ∃ r, FrontierAll ev (n + 1) xs t r t := by
  rcases xs with _ | ⟨z, xs⟩
  · rcases head with h | ⟨y, h⟩ <;> cases h
  · rcases head with h | ⟨y, h⟩
    · cases h
      exact ⟨_, .stop (.stranger hx)⟩
    · cases h
      exact ⟨_, .stop (.sequence rfl (.stop (.stranger hx)))⟩

mutual

/-- By induction on the value; inside cursors values are less deep. -/
lemma exists_frontier_succ (hs : ∀ t, s.Leads ev t → t.Builds ev)
    (deep : ∀ v t, s.Leads ev t → ∃ r u, Frontier ev n v t r u ∧ s.Leads ev u) (v : Value)
    (t : Session) (h : s.Leads ev t) :
    ∃ r u, Frontier ev (n + 1) v t r u ∧ s.Leads ev u := by
  cases v with
  | list xs =>
    refine exists_frontier_of_all hs deep _ h fun ys hys => ?_
    obtain rfl := Option.some.inj hys
    exact exists_frontierAll hs deep xs t h
  | tuple xs =>
    refine exists_frontier_of_all hs deep _ h fun ys hys => ?_
    obtain rfl := Option.some.inj hys
    exact exists_frontierAll hs deep xs t h
  | _ =>
    refine exists_frontier_of_all hs deep _ h fun ys hys => ?_
    rcases other_of_sequence? (componentWithin n) hys with
      hv | hv | ⟨-, ⟨rfl, -⟩ | ⟨x, hx, -, head⟩⟩
    · cases hv
    · cases hv
    · -- an empty range
      exact ⟨_, t, .nil, h⟩
    · -- the first element is refused
      obtain ⟨r, hr⟩ := exists_frontierAll_of_head hx head
      exact ⟨r, t, hr, h⟩

lemma exists_frontierAll (hs : ∀ t, s.Leads ev t → t.Builds ev)
    (deep : ∀ v t, s.Leads ev t → ∃ r u, Frontier ev n v t r u ∧ s.Leads ev u) (xs : List Value)
    (t : Session) (h : s.Leads ev t) :
    ∃ r u, FrontierAll ev (n + 1) xs t r u ∧ s.Leads ev u := by
  cases xs with
  | nil => exact ⟨_, t, .nil, h⟩
  | cons x xs =>
    obtain ⟨r, u, hx, hu⟩ := exists_frontier_succ hs deep x t h
    cases r with
    | error e => exact ⟨_, u, .stop hx, hu⟩
    | ok ns =>
      obtain ⟨q, w, hxs, hw⟩ := exists_frontierAll hs deep xs u hu
      exact ⟨_, w, .cons hx hxs, hw⟩

end

end Existence

/-- **Totality**: every value has a frontier, as long as builders build nodes. -/
lemma exists_frontier {ev : Evaluator} {s : Session} (hs : ∀ t, s.Leads ev t → t.Builds ev)
    (n : Nat) (v : Value) {t : Session} (h : s.Leads ev t) :
    ∃ r u, Frontier ev n v t r u ∧ s.Leads ev u := by
  induction n generalizing v t with
  | zero => exact ⟨_, t, .tooDeep, h⟩
  | succ n ih => exact exists_frontier_succ hs (fun v _ h => ih v h) v t h

end LayoutTree
