import LayoutTree.Proofs.Construct
import LayoutTree.Tree.Block

/-!
Nodes that stand for others: what is flattened from a node is what is flattened from the nodes
that it spans, one after the other.

A fragment spans all that its items span, so however deep fragments are nested, a row of nodes is
left of them.
-/

namespace LayoutTree

open Run

/-- The value is a slot, a group or a fragment. -/
def Value.isNode : Value → Bool
  | .slot .. => true
  | .group .. => true
  | .fragment .. => true
  | _ => false

/-- The session once a fragment was made, which takes two identities. -/
def Session.fragmented (s : Session) : Session := { s with serial := s.serial + 2 }

namespace Node

/-- The slots and groups of nodes in a row. -/
def flattenEach (ns : List Value) : Run (List Value) := List.flatten <$> ns.mapM flatten

@[simp] lemma flattenEach_nil : flattenEach [] = pure [] := rfl

lemma flattenEach_cons (n : Value) (ns : List Value) :
    flattenEach (n :: ns) = do return (← flatten n) ++ (← flattenEach ns) := by
  simp only [flattenEach, List.mapM_cons, map_eq_pure_bind, bind_assoc, pure_bind,
    List.flatten_cons]

lemma flattenEach_append (ms ns : List Value) :
    flattenEach (ms ++ ns) = do return (← flattenEach ms) ++ (← flattenEach ns) := by
  induction ms with
  | nil => simp
  | cons m ms ih =>
    simp only [List.cons_append, flattenEach_cons, ih, bind_assoc, pure_bind, List.append_assoc]

lemma flattenEach_singleton (n : Value) : flattenEach [n] = flatten n := by
  simp [flattenEach_cons]

lemma exec_flatten (ev : Evaluator) (s : Session) (v : Value) :
    (flatten v).exec ev s = (flattenWith (flattenWithin ev.depth) v).exec ev s := by
  unfold flatten
  rw [exec_bind_ok (exec_read ev s), flattenWithin]

lemma exec_flattenAll (ev : Evaluator) (s : Session) (ns : List Value) :
    (flattenAll (flattenWithin ev.depth) ns).exec ev s = (flattenEach ns).exec ev s := by
  induction ns generalizing s with
  | nil => rfl
  | cons n ns ih =>
    rw [flattenAll, flattenEach_cons, exec_bind, exec_bind, exec_flatten]
    rcases (flattenWith (flattenWithin ev.depth) n).exec ev s with ⟨_ | xs, t⟩
    · rfl
    · change (_ >>= _ : Run _).exec ev t = (_ >>= _ : Run _).exec ev t
      rw [exec_bind, exec_bind, ih]

lemma flatten_fragment (id : Nat) (kind : Value) (ns : List Value) :
    flatten (.fragment id kind (.tuple ns)) = flattenEach ns := by
  funext ev
  funext s
  exact exec_flattenAll ev s ns

/-- A node that flattens as the nodes do that it spans. -/
structure Spans (w : Value) (ns : List Value) : Prop where
  isNode : w.isNode = true
  flatten : Node.flatten w = flattenEach ns

/-- Nodes that flatten as others do. -/
structure AllSpan (ws ns : List Value) : Prop where
  isNode : ∀ w ∈ ws, w.isNode = true
  flatten : flattenEach ws = flattenEach ns

lemma Spans.self {v : Value} (h : v.isNode = true) : Spans v [v] where
  isNode := h
  flatten := (flattenEach_singleton v).symm

lemma AllSpan.nil : AllSpan [] [] where
  isNode _ h := nomatch h
  flatten := rfl

lemma AllSpan.cons {w : Value} {ws ms ns : List Value} (h : Spans w ms) (hs : AllSpan ws ns) :
    AllSpan (w :: ws) (ms ++ ns) where
  isNode v hv := by
    rcases List.mem_cons.1 hv with rfl | hv
    · exact h.isNode
    · exact hs.isNode v hv
  flatten := by rw [flattenEach_cons, flattenEach_append, h.flatten, hs.flatten]

lemma AllSpan.of_singleton {w : Value} {ns : List Value} (h : AllSpan [w] ns) : Spans w ns where
  isNode := h.isNode w (by simp)
  flatten := by rw [← h.flatten, flattenEach_singleton]

lemma AllSpan.fragment {ws ns : List Value} (h : AllSpan ws ns) (id : Nat) (kind : Value) :
    Spans (.fragment id kind (.tuple ws)) ns where
  isNode := rfl
  flatten := by rw [flatten_fragment, h.flatten]

end Node

/-! ### Making fragments -/

lemma Value.itemsFrom_nodes (outer : Nesting) (i : Nat) {ws : List Value}
    (h : ∀ w ∈ ws, w.isNode = true) (n : Nat) :
    itemsFrom outer i ws n = (.read ws 0 .exact, n) := by
  induction ws generalizing i with
  | nil => rfl
  | cons w ws ih =>
    have hw : node outer w n = (.read w 0 .exact, n) := by
      have := h w (by simp)
      cases w <;> first | rfl | cases this
    have hws := ih (i + 1) fun v hv => h v (by simp [hv])
    simp only [itemsFrom, Reading.seq_apply, Reading.map_apply, Reading.under, Reading.judged,
      hw, hws]
    rfl

namespace Block

variable (ev : Evaluator) (s : Session)

lemma exec_emptyFragment : emptyFragment.exec ev s =
    (.ok (.fragment (s.serial + 1) (.text "fragment") (.tuple [])), s.fragmented) := by
  have h : (settleWithin (ev.depth + 1) (.ofType "Fragment") [] (.dict s.serial [])).exec ev
      { s with serial := s.serial + 1 } =
      (.ok (.dict s.serial []), { s with serial := s.serial + 1 }) := rfl
  unfold emptyFragment
  rw [exec_construct h rfl]
  rfl

/-- Nodes are taken into a fragment as they are, from a list as from a tuple. -/
lemma exec_construct_fragment {items : Value} {ws : List Value}
    (hi : items = .list ws ∨ items = .tuple ws) (h : ∀ w ∈ ws, w.isNode = true) :
    (construct "Fragment" [("items", items)]).exec ev s =
      (.ok (.fragment (s.serial + 1) (.text "fragment") (.tuple ws)), s.fragmented) := by
  have hdict : ∀ w ∈ ws, ∀ id fs, w ≠ .dict id fs := by
    rintro w hw id fs rfl
    cases h _ hw
  have hsettle : (settleWithin (ev.depth + 1) (.ofType "Fragment") []
      (.dict s.serial [("items", items)])).exec ev { s with serial := s.serial + 1 } =
      (.ok (.dict s.serial [("items", items)]), { s with serial := s.serial + 1 }) := by
    have hpart : (settlePart (settleWithin ev.depth) .node [(s.serial, "Fragment")] "items"
        [("items", items)]).exec ev { s with serial := s.serial + 1 } =
        (.ok (some items), { s with serial := s.serial + 1 }) := by
      rcases hi with rfl | rfl
      all_goals
        change (some <$> (_ <$> settleEach _ _ _ ws)).exec ev _ = _
        rw [exec_map, exec_map, exec_settleEach _ _ _ ws hdict]
        rfl
    change (settlePart _ _ _ _ _ >>= _).exec ev _ = _
    rw [exec_bind_ok hpart]
    rfl
  have hread : ∃ e, Value.itemsOf [(s.serial, "Fragment")] [("items", items)] =
      fun n => (.read (.tuple ws) 1 e, n) := by
    rcases hi with rfl | rfl
    · refine ⟨.converted, funext fun n => ?_⟩
      change (Value.tuple <$> (Value.itemsFrom _ 0 ws).atMost .converted).given _ n = _
      unfold Reading.given Reading.atMost Reading.judged
      simp only [Value.itemsFrom_nodes _ 0 h]
      rfl
    · refine ⟨.exact, funext fun n => ?_⟩
      change (Value.tuple <$> Value.itemsFrom _ 0 ws).given _ n = _
      unfold Reading.given Reading.judged
      simp only [Reading.map_apply, Value.itemsFrom_nodes _ 0 h]
      rfl
  obtain ⟨e, hread⟩ := hread
  rw [exec_construct hsettle rfl]
  change finished _ (Value.fragmentOf _ (Value.itemsOf [(s.serial, "Fragment")] _)) _ = _
  rw [hread]
  rfl

lemma exec_fragment {ws : List Value} (h : ∀ w ∈ ws, w.isNode = true) :
    (fragment ws).exec ev s =
      (.ok (.fragment (s.serial + 1) (.text "fragment") (.tuple ws)), s.fragmented) :=
  exec_construct_fragment ev s (.inr rfl) h

end Block

/-! ### Builders build nodes -/

lemma Value.slotOf_isNode (fs : Fields) : (slotOf fs).Gives (·.isNode = true) := by
  iterate 5 apply Reading.gives_seq
  exact Reading.gives_map (fun _ _ _ _ _ _ => rfl) _

lemma Value.groupOf_isNode (fs : Fields) (children : Reading Value) :
    (groupOf fs children).Gives (·.isNode = true) := by
  iterate 7 apply Reading.gives_seq
  exact Reading.gives_map (fun _ _ _ _ _ _ _ _ => rfl) _

lemma Builder.isNode_of_build {ev : Evaluator} {s t : Session} {id : Nat} {w : Value}
    (h : (Builder.build id).exec ev s = (.ok w, t)) : w.isNode = true := by
  unfold Builder.build at h
  obtain ⟨b, u, -, hb⟩ := exec_bind_eq_ok h
  refine construct_gives (P := fun v => v.isNode = true) ?_ hb
  intro id gs r hr
  unfold Box.nodeType at hr
  split at hr
  · cases hr
    exact Value.slotOf_isNode gs
  · cases hr
    unfold Value.nested
    rcases Nesting.enter? [] "Group" id with _ | inner
    · intro a g e m n ha
      cases ha
    · exact Value.groupOf_isNode gs _

end LayoutTree
