import LayoutTree.Proofs.Compose.Expansion
import LayoutTree.Proofs.Compose.Trace

/-!
Host objects with every repeated group written out, at every depth. What a trace engine makes of a
plan is, written out, what it makes of the plan without repetition.
-/

namespace LayoutTree

namespace Value

/-- The list of a trace engine, with a repeated group written out as the group of its copies. -/
def unrolledList : List Value → Value
  | [.text t, d, z, x, .int n] =>
    if t = "repeat" then .list [.text "group", d, z, .list (List.replicate n.toNat x)]
    else .list [.text t, d, z, x, .int n]
  | xs => .list xs

/-- The count and the subitems of a host group: instead of a count there are the copies that it
stands for. -/
def unrolledSubitems : Value → List Value → Value × List Value
  | .int n, x :: _ => (.null, List.replicate n.toNat x)
  | count, xs => (count, xs)

mutual

/-- A host object with every repeated group in it written out, from the inside. -/
def unrolled : Value → Value
  | .list xs => unrolledList (unrolledAll xs)
  | .itemGroup id z d xs n i e g =>
    let p := unrolledSubitems n (unrolledAll xs)
    .itemGroup id z d p.2 p.1 i e g
  | v => v

def unrolledAll : List Value → List Value
  | [] => []
  | v :: vs => v.unrolled :: unrolledAll vs

end

/-- The copies that are written out are the subitems as laid out, whatever is made of each. -/
lemma unrolledSubitems_of_effective {n : Value} {xs ys : List Value} (hn : ∀ b, n ≠ .bool b)
    (h : effectiveSubitems xs n = .ok ys) (g : Value → Value) :
    unrolledSubitems n (xs.map g) = (.null, ys.map g) := by
  cases n with
  | null =>
    cases h
    rfl
  | bool b => exact absurd rfl (hn b)
  | int k =>
    cases xs with
    | nil => cases h
    | cons x xs =>
      unfold effectiveSubitems copies times at h
      dsimp only at h
      split at h
      · cases h
      split at h
      · cases h
      · cases h
        rw [List.map_cons, List.map_replicate]
        rfl
  | _ => cases xs <;> cases h

lemma unrolledAll_eq_map (xs : List Value) : unrolledAll xs = xs.map unrolled := by
  induction xs with
  | nil => rfl
  | cons x xs ih => rw [unrolledAll, ih, List.map_cons]

/-- A host group is written out as the group that lists its subitems as laid out. -/
lemma unrolled_of_effective {n : Value} {xs ys : List Value} (hn : ∀ b, n ≠ .bool b)
    (h : effectiveSubitems xs n = .ok ys) (id : Nat) (z : LayoutSize) (d : Direction)
    (i e g : Value) :
    (itemGroup id z d xs n i e g).unrolled = .itemGroup id z d (unrolledAll ys) .null i e g := by
  rw [unrolled, unrolledAll_eq_map, unrolledAll_eq_map, unrolledSubitems_of_effective hn h]

end Value

namespace Plan

lemma trace_repeated (d : Direction) (z : LayoutSize) (p : Plan) (n : Nat) :
    (repeated d z p n).trace = .list [.text "repeat", .direction d, .size z, p.trace, .int n] := rfl

lemma trace_insets (p : Plan) (i : Insets) :
    (p.insets i).trace = .list [.text "insets", p.trace, .insets i] := rfl

lemma trace_edges (p : Plan) (e : EdgeSpacing) :
    (p.edges e).trace = .list [.text "edges", p.trace, e.toValue] := rfl

lemma trace_spacing (p : Plan) (g : Spacing) :
    (p.spacing g).trace = .list [.text "spacing", p.trace, .spacing g] := rfl

lemma traces_cons (p : Plan) (ps : List Plan) : traces (p :: ps) = p.trace :: traces ps := rfl

lemma traces_replicate (p : Plan) (n : Nat) :
    traces (List.replicate n p) = List.replicate n p.trace := by
  induction n with
  | zero => rfl
  | succ n ih => rw [List.replicate_succ, traces_cons, ih, List.replicate_succ]

/-- A list of host objects is not taken for a host object. -/
lemma unrolledList_traces (ps : List Plan) :
    Value.unrolledList (traces ps) = .list (traces ps) := by
  cases ps <;> rfl

mutual

lemma unrolled_trace (p : Plan) : p.trace.unrolled = p.expand.trace := by
  cases p with
  | item z => rfl
  | group d z ps =>
    change Value.unrolledList [.text "group", .direction d, .size z,
      Value.unrolledList (Value.unrolledAll (traces ps))] = _
    rw [unrolledAll_traces ps, unrolledList_traces]
    rfl
  | repeated d z p n =>
    change Value.unrolledList [.text "repeat", .direction d, .size z, p.trace.unrolled, .int n] = _
    rw [unrolled_trace p]
    change Value.list [.text "group", _, _, .list (List.replicate n p.expand.trace)] = _
    rw [← traces_replicate]
    rfl
  | insets p i =>
    change Value.unrolledList [.text "insets", p.trace.unrolled, .insets i] = _
    rw [unrolled_trace p]
    rfl
  | edges p e =>
    change Value.unrolledList [.text "edges", p.trace.unrolled, e.toValue] = _
    rw [unrolled_trace p]
    rfl
  | spacing p g =>
    change Value.unrolledList [.text "spacing", p.trace.unrolled, .spacing g] = _
    rw [unrolled_trace p]
    rfl

lemma unrolledAll_traces (ps : List Plan) :
    Value.unrolledAll (traces ps) = traces (expandAll ps) := by
  cases ps with
  | nil => rfl
  | cons p ps => rw [traces_cons, Value.unrolledAll, unrolled_trace p, unrolledAll_traces ps]; rfl

end

mutual

lemma Like.same_trace {p q : Plan} (h : p.Like q) : p.trace.same q.trace = true := by
  cases h with
  | item hz => simp [trace, operands, word, Value.same_list, hz]
  | group d hz hs =>
    simp [trace, operands, word, Value.same_list, hz, AllLike.sameAll_traces hs]
  | repeated d n hz h =>
    rw [trace_repeated, trace_repeated, Value.same_list]
    simp [hz, Like.same_trace h]
  | insets h hi =>
    rw [trace_insets, trace_insets, Value.same_list]
    simp [Like.same_trace h, hi]
  | edges h he =>
    rw [trace_edges, trace_edges, Value.same_list]
    simp [Like.same_trace h, he]
  | spacing h hg =>
    rw [trace_spacing, trace_spacing, Value.same_list]
    simp [Like.same_trace h, hg]

lemma AllLike.sameAll_traces {ps qs : List Plan} (h : AllLike ps qs) :
    Value.sameAll (traces ps) (traces qs) = true := by
  cases h with
  | nil => rfl
  | cons h hs =>
    rw [traces_cons, traces_cons, Value.sameAll_cons_cons, Like.same_trace h,
      AllLike.sameAll_traces hs]
    rfl

end

end Plan

end LayoutTree
