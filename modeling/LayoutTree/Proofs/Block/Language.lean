import LayoutTree.Proofs.Block.Totality
import Mathlib.Logic.ExistsUnique

/-!
The language of blocks: every way into it gives what frontiers say.

A single value is converted, values in a row are combined, the elements of a sequence or cursor
become a fragment, and a block is called and what it gives is resolved. Each comes down to the same
conversion, element by element.
-/

namespace LayoutTree

open Run Block

/-- The sessions differ at most in which identities are free. -/
def Session.Alike (s t : Session) : Prop := s = { t with serial := s.serial }

lemma Session.wrapped_alike {α : Type} (s : Session) (r : Except Fault α) :
    (s.wrapped r).Alike s := by
  cases r <;> rfl

namespace Block

open Node

section Entries

variable {ev : Evaluator} {v : Value} {s t u : Session} {r : Except Fault (List Value)}

lemma exec_component_eq (ev : Evaluator) (s : Session) (v : Value) :
    (component v).exec ev s = (componentWithin (ev.depth + 1) v).exec ev s := by
  unfold component
  rw [exec_bind_ok (exec_read ev s)]

lemma components_eq_mapM (xs : List Value) : components xs = xs.mapM component := by
  induction xs with
  | nil => rfl
  | cons x xs ih => rw [components, List.mapM_cons, ih]

/-- Nodes stand for themselves. -/
lemma exec_mapM_nodes {ws : List Value} (h : ∀ w ∈ ws, w.isNode = true) :
    (ws.mapM component).exec ev s = (.ok ws, s) := by
  induction ws with
  | nil => rfl
  | cons w ws ih =>
    have hw : (component w).exec ev s = (.ok w, s) := by
      rw [exec_component_eq, componentWithin]
      have hn := h w (by simp)
      cases w <;> first | rfl | cases hn
    have hws := ih fun v hv => h v (by simp [hv])
    rw [List.mapM_cons, exec_bind_ok hw, exec_bind_ok hws]
    rfl

/-- Of several nodes, or none, a fragment is made; one stays. -/
lemma exec_combine {xs : List Value} {x : Except Fault (List Value)}
    (h : (xs.mapM component).exec ev s = (x, t)) (hx : Agrees AllSpan x r) :
    ∃ y u, (combine xs).exec ev s = (y, u) ∧ Agrees Spans y r ∧ u.Alike t := by
  rw [← components_eq_mapM] at h
  unfold combine
  cases hx with
  | error e => exact ⟨_, t, exec_bind_error h, .error e, rfl⟩
  | @ok ws ns hws =>
    rw [exec_bind_ok h]
    match ws, hws with
    | [w], hws => exact ⟨.ok w, t, rfl, .ok hws.of_singleton, rfl⟩
    | [], hws => exact ⟨_, _, exec_fragment ev t hws.isNode, .ok (hws.fragment _ _), rfl⟩
    | _ :: _ :: _, hws => exact ⟨_, _, exec_fragment ev t hws.isNode, .ok (hws.fragment _ _), rfl⟩

lemma exec_bind_combine {m : Run (List Value)} {x : Except Fault (List Value)}
    (h : m.exec ev s = (x, t)) (hx : Agrees AllSpan x r) :
    ∃ y u, (m >>= combine).exec ev s = (y, u) ∧ Agrees Spans y r ∧ u.Alike t := by
  cases hx with
  | error e => exact ⟨_, t, exec_bind_error h, .error e, rfl⟩
  | ok hws =>
    rw [exec_bind_ok h]
    exact exec_combine (exec_mapM_nodes hws.isNode) (.ok hws)

lemma exec_component (h : Frontier ev (ev.depth + 1) v s r t) :
    ∃ x, (component v).exec ev s = (x, t) ∧ Agrees Spans x r := by
  rw [exec_component_eq]
  exact h.exec_component

lemma exec_forDrawn_component {id : Nat}
    (h : FrontierDrawn ev (ev.depth + 1) id (s.pendingLength id + 1) s r t) :
    ∃ x, (forDrawn id component).exec ev s = (x, t) ∧ Agrees AllSpan x r := by
  rw [exec_forDrawn, exec_drawn_congr (exec_component_eq ev)]
  exact h.exec_drawn

lemma exec_mapM_of_frontierAll {xs : List Value} (h : FrontierAll ev (ev.depth + 1) xs s r t) :
    ∃ x, (xs.mapM component).exec ev s = (x, t) ∧ Agrees AllSpan x r := by
  rw [exec_mapM_congr (exec_component_eq ev)]
  exact h.exec_mapM

lemma exec_elementsAtHand? (ev : Evaluator) {xs : List Value} (h : v.sequence? s = some xs)
    (hr : ∀ n, v ≠ .range n) : (elementsAtHand? v).exec ev s = (.ok (some xs), s) := by
  unfold Value.sequence? at h
  split at h
  · cases h
  split at h
  · cases h
  unfold elementsAtHand?
  rcases hf : v.fields? with _ | fs
  · rw [hf] at h
    change (pure v.elements? : Run _).exec ev s = _
    rw [show v.elements? = some xs from h]
    rfl
  · rw [hf] at h
    cases h
    rfl

/-- The elements of a sequence become nodes one by one. -/
lemma exec_forElements {xs : List Value} (hs : v.sequence? s = some xs)
    (h : FrontierAll ev (ev.depth + 1) xs s r t) :
    ∃ x, (forElements v component).exec ev s = (x, t) ∧ Agrees AllSpan x r := by
  by_cases hn : ∃ n, v = .range n
  · -- a range, of which the first number is refused
    obtain ⟨n, rfl⟩ := hn
    obtain rfl := Option.some.inj hs
    by_cases hn : 0 < n
    · obtain ⟨ys, hys⟩ := range_eq_cons hn
      rw [hys] at h
      obtain ⟨rfl, rfl⟩ := h.eq_of_stranger rfl
      obtain ⟨m, hm⟩ : ∃ m, n.toNat = m + 1 := ⟨n.toNat - 1, by omega⟩
      have hc : (component (.int 0)).exec ev s = (.error ((Value.int 0).refusal s), s) := by
        rw [exec_component_eq]
        exact exec_stranger rfl
      refine ⟨_, ?_, .error _⟩
      change (forNumbers component 0 n.toNat).exec ev s = _
      rw [hm, forNumbers]
      exact exec_bind_error hc
    · -- an empty range
      have hz : n.toNat = 0 := by omega
      rw [hz] at h
      cases h
      refine ⟨.ok [], ?_, .ok .nil⟩
      change (forNumbers component 0 n.toNat).exec ev s = _
      rw [hz]
      rfl
  · -- elements that are at hand
    have he := exec_elementsAtHand? ev hs fun n hv => hn ⟨n, hv⟩
    obtain ⟨x, hx, hxr⟩ := exec_mapM_of_frontierAll h
    refine ⟨x, ?_, hxr⟩
    unfold forElements
    split
    · cases hs
    · exact absurd ⟨_, rfl⟩ hn
    · rw [exec_bind_ok he]
      exact hx

/-- The fragment of all elements of a sequence. -/
lemma exec_fromArray {xs : List Value} (hs : v.sequence? s = some xs)
    (h : FrontierAll ev (ev.depth + 1) xs s r t) :
    ∃ x, (fromArray v).exec ev s = (x, t.wrapped r) ∧ Agrees Spans x r := by
  obtain ⟨x, hx, hxr⟩ := exec_forElements hs h
  exact exec_wrap hx hxr

lemma exec_fromArray_cursor {kind : CursorKind} {id : Nat}
    (h : FrontierDrawn ev (ev.depth + 1) id (s.pendingLength id + 1) s r t) :
    ∃ x, (fromArray (.cursor kind id)).exec ev s = (x, t.wrapped r) ∧ Agrees Spans x r := by
  obtain ⟨x, hx, hxr⟩ := exec_forDrawn_component h
  exact exec_wrap hx hxr

/-- What a block gives as one node. -/
def resolved : Value → Run Value
  | .list xs => components xs >>= combine
  | .tuple xs => components xs >>= combine
  | .cursor _ id => forDrawn id component >>= combine
  | v => component v

lemma exec_node {block : Value} (hb : isCallable block = true)
    (hc : (call block .none).exec ev u = (.ok v, s)) :
    (node block).exec ev u = (resolved v).exec ev s := by
  unfold node
  rw [hb]
  change (call block .none >>= _).exec ev u = _
  rw [exec_bind_ok hc]
  cases v <;> rfl

lemma exec_resolved_sequence {xs : List Value} (hv : v = .list xs ∨ v = .tuple xs)
    (h : FrontierAll ev (ev.depth + 1) xs s r t) :
    ∃ x w, (resolved v).exec ev s = (x, w) ∧ Agrees Spans x r ∧ w.Alike t := by
  obtain ⟨x, hx, hxr⟩ := exec_mapM_of_frontierAll h
  rw [← components_eq_mapM] at hx
  rcases hv with rfl | rfl <;> exact exec_bind_combine hx hxr

lemma exec_resolved_cursor {kind : CursorKind} {id : Nat}
    (h : FrontierDrawn ev (ev.depth + 1) id (s.pendingLength id + 1) s r t) :
    ∃ x w, (resolved (.cursor kind id)).exec ev s = (x, w) ∧ Agrees Spans x r ∧ w.Alike t := by
  obtain ⟨x, hx, hxr⟩ := exec_forDrawn_component h
  exact exec_bind_combine hx hxr

end Entries

/-- A computation makes a node that spans the nodes of a frontier, or fails as the frontier does,
and it leaves the session of the frontier, but for fragments made on the way. -/
def Gives (ev : Evaluator) (m : Run Value) (s : Session) (r : Except Fault (List Value))
    (t : Session) : Prop :=
  ∃ x u, m.exec ev s = (x, u) ∧ Agrees Spans x r ∧ u.Alike t

end Block

/-- **Blocks mean their frontiers**: as long as builders build nodes, whatever stands in a block has
one frontier, and so have values in a row and what a cursor gives. Conversion makes of a value a
node that spans its frontier, or fails as the frontier does, and leaves the session that the
frontier leaves. What values are combined to, the fragment of a sequence or cursor of them, and what
a block is that gives one of these span the frontiers of the values, or fail as they do. -/
theorem block_frontier (ev : Evaluator) (s : Session) :
    ((∀ t, s.Leads ev t → t.Builds ev) →
      (∀ v, ∃! o : Except Fault (List Value) × Session,
        Frontier ev (ev.depth + 1) v s o.1 o.2) ∧
      (∀ xs, ∃! o : Except Fault (List Value) × Session,
        FrontierAll ev (ev.depth + 1) xs s o.1 o.2) ∧
      ∀ id, ∃! o : Except Fault (List Value) × Session,
        FrontierDrawn ev (ev.depth + 1) id (s.pendingLength id + 1) s o.1 o.2) ∧
    (∀ v r t, Frontier ev (ev.depth + 1) v s r t →
      ∃ x, (component v).exec ev s = (x, t) ∧ Agrees Node.Spans x r) ∧
    (∀ xs r t, FrontierAll ev (ev.depth + 1) xs s r t →
      Gives ev (combine xs) s r t ∧
      (∀ v, v.sequence? s = some xs → Gives ev (fromArray v) s r t) ∧
      ∀ block u v, v = .list xs ∨ v = .tuple xs → isCallable block = true →
        (call block .none).exec ev u = (.ok v, s) → Gives ev (Block.node block) u r t) ∧
    ∀ kind id r t, FrontierDrawn ev (ev.depth + 1) id (s.pendingLength id + 1) s r t →
      Gives ev (fromArray (.cursor kind id)) s r t ∧
      ∀ block u, isCallable block = true →
        (call block .none).exec ev u = (.ok (.cursor kind id), s) →
        Gives ev (Block.node block) u r t := by
  refine ⟨fun hs => ⟨fun v => ?_, fun xs => ?_, fun id => ?_⟩, fun v r t h => exec_component h,
    fun xs r t h => ⟨?_, fun v hv => ?_, fun block u v hv hb hc => ?_⟩,
    fun kind id r t h => ⟨?_, fun block u hb hc => ?_⟩⟩
  · -- a value
    obtain ⟨r, t, h, -⟩ := exists_frontier hs (ev.depth + 1) v .refl
    exact ⟨(r, t), h, fun o ho => Prod.ext (ho.unique h).1 (ho.unique h).2⟩
  · -- values in a row
    obtain ⟨r, t, h, -⟩ :=
      exists_frontierAll hs (fun v _ h => exists_frontier hs ev.depth v h) xs s .refl
    exact ⟨(r, t), h, fun o ho => Prod.ext (ho.unique h).1 (ho.unique h).2⟩
  · -- what a cursor gives
    obtain ⟨r, t, h, -⟩ := exists_frontierDrawn
      (fun v _ h => exists_frontier hs (ev.depth + 1) v h) id (s.pendingLength id + 1) .refl
    exact ⟨(r, t), h, fun o ho => Prod.ext (ho.unique h).1 (ho.unique h).2⟩
  · -- combining
    obtain ⟨y, hy, hyr⟩ := exec_mapM_of_frontierAll h
    exact exec_combine hy hyr
  · -- the fragment of a sequence
    obtain ⟨x, hx, hxr⟩ := exec_fromArray hv h
    exact ⟨x, _, hx, hxr, t.wrapped_alike r⟩
  · -- a block that gives a sequence
    rw [Gives, exec_node hb hc]
    exact exec_resolved_sequence hv h
  · -- the fragment of a cursor
    obtain ⟨x, hx, hxr⟩ := exec_fromArray_cursor h
    exact ⟨x, _, hx, hxr, t.wrapped_alike r⟩
  · -- a block that gives a cursor
    rw [Gives, exec_node hb hc]
    exact exec_resolved_cursor h

/-- A builder, nothing, and an iterator in a tuple give two slots; behind a text nothing is drawn
any more. -/
theorem block_frontier_nested :
    let ev : Evaluator := { Evaluator.none with depth := 1 }
    let z : LayoutSize := ⟨1, ⟨2, .absolute, .zero⟩, ⟨3, .absolute, .zero⟩⟩
    let slot (id : Nat) : Value := .slot id (.text "slot") (.size z) .null .null (.int 1)
    let s : Session := { Session.initial [] false with
      boxes := #[⟨.size z, .null, .null, .item (.int 1)⟩]
      cursors := #[⟨.values [.box .item 0], false⟩] }
    (∀ t, s.Leads ev t → t.Builds ev) ∧
    (∃! o : Except Fault (List Value) × Session, FrontierDrawn ev 2 0 2 s o.1 o.2) ∧
    (∃ w t, (component (.list [.box .item 0, .null, .tuple [.cursor .iterator 0]])).exec ev s =
      (.ok w, t) ∧ Node.flatten w = Node.flattenEach [slot 2, slot 6]) ∧
    ∃ u, (component (.list [.box .item 0, .text "x", .cursor .iterator 0])).exec ev s =
      (.error (.textInBlock ((Value.text "x").written s.loggerWritten)), u) ∧
      u.cursors = s.cursors := by
  intro ev z slot s
  have hinert : s.Inert := by
    refine ⟨fun id c hc => ?_, fun kind id => rfl⟩
    cases id with
    | zero =>
      cases hc
      exact ⟨_, rfl⟩
    | succ id => cases hc
  have hbuilds : ∀ t, s.Leads ev t → t.Builds ev := fun t => hinert.builds
  have hfirst : Frontier ev 2 (.box .item 0) s (.ok [slot 2]) { s with serial := 3 } :=
    .built (w := slot 2) rfl rfl
  refine ⟨hbuilds, ((block_frontier ev s).1 hbuilds).2.2 0, ?_, ?_⟩
  · let t : Session := { s with serial := 5, cursors := #[⟨.values [], false⟩] }
    have hbuilt : Frontier ev 1 (.box .item 0) t (.ok [slot 6]) { t with serial := 7 } :=
      .built (w := slot 6) rfl rfl
    have hdrawn : FrontierDrawn ev 1 0 2 { s with serial := 5 } (.ok [slot 6])
        { t with serial := 7 } := .next rfl hbuilt (.done rfl)
    have hcursor : Frontier ev 2 (.cursor .iterator 0) { s with serial := 5 } (.ok [slot 6])
        { t with serial := 9 } := .cursor (t := { t with serial := 7 }) hdrawn
    have htuple : Frontier ev 2 (.tuple [.cursor .iterator 0]) { s with serial := 5 }
        (.ok [slot 6]) { t with serial := 11 } :=
      .sequence (t := { t with serial := 9 }) rfl (.cons hcursor .nil)
    have h : Frontier ev 2 (.list [.box .item 0, .null, .tuple [.cursor .iterator 0]]) s
        (.ok [slot 2, slot 6]) { t with serial := 13 } :=
      .sequence (t := { t with serial := 11 }) rfl (.cons hfirst (.cons .null (.cons htuple .nil)))
    obtain ⟨x, hx, hxr⟩ := (block_frontier ev s).2.1 _ _ _ h
    cases hxr with
    | ok hw => exact ⟨_, _, hx, hw.flatten⟩
  · have h : Frontier ev 2 (.list [.box .item 0, .text "x", .cursor .iterator 0]) s
        (.error (.textInBlock ((Value.text "x").written s.loggerWritten))) { s with serial := 3 } :=
      .sequence (t := { s with serial := 3 }) rfl (.cons hfirst (.stop (.stranger rfl)))
    obtain ⟨x, hx, hxr⟩ := (block_frontier ev s).2.1 _ _ _ h
    cases hxr with
    | error => exact ⟨_, hx, rfl⟩

end LayoutTree
