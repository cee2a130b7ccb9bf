import LayoutTree.Proofs.Block.Span
import LayoutTree.Proofs.Builder.Machine

/-!
Flattening: what is left of a node is its frontier, the values at the places within nested
fragments, from left to right. How the fragments are nested is forgotten, and nothing else.
-/

namespace LayoutTree

open Run

/-! ### Places within fragments -/

namespace Value

def isFragment : Value → Bool
  | .fragment .. => true
  | _ => false

/-- The elements of a container that nothing has to be drawn from. -/
def atHand? (v : Value) : Option (List Value) := if v.isRecord then none else v.elements?

/-- Fragments nested in one another, each with its items at hand. Validated nodes are nested so,
as are nodes that were made with any items in a list or in a tuple. -/
inductive Nested : Value → Prop
  | leaf {v : Value} : v.isFragment = false → Nested v
  | fragment {id : Nat} {kind items : Value} {ws : List Value} : items.atHand? = some ws →
      (∀ w ∈ ws, Nested w) → Nested (.fragment id kind items)

@[simp] lemma atHand?_list (xs : List Value) : (list xs).atHand? = some xs := rfl

@[simp] lemma atHand?_tuple (xs : List Value) : (tuple xs).atHand? = some xs := rfl

lemma nested_fragment_iff {id : Nat} {kind items : Value} :
    (fragment id kind items).Nested ↔ ∃ ws, items.atHand? = some ws ∧ ∀ w ∈ ws, w.Nested := by
  constructor
  · rintro (h | ⟨h, hs⟩)
    · cases h
    · exact ⟨_, h, hs⟩
  · rintro ⟨ws, h, hs⟩
    exact .fragment h hs

/-- The value stands at a place in another one, which is told by the indices on the way to it
through the items of fragments. No fragment stands anywhere but around what does, and what is in a
group stands nowhere. -/
inductive At (x : Value) : List Nat → Value → Prop
  | here : x.isFragment = false → At x [] x
  | item {id i : Nat} {kind items w : Value} {ws : List Value} {p : List Nat} :
      items.atHand? = some ws → ws[i]? = some w → At x p w → At x (i :: p) (.fragment id kind items)

lemma at_leaf_iff {v x : Value} {p : List Nat} (h : v.isFragment = false) :
    At x p v ↔ p = [] ∧ x = v := by
  constructor
  · rintro (_ | _)
    · exact ⟨rfl, rfl⟩
    · cases h
  · rintro ⟨rfl, rfl⟩
    exact .here h

lemma at_fragment_iff {id : Nat} {kind items x : Value} {ws : List Value} {p : List Nat}
    (h : items.atHand? = some ws) : At x p (.fragment id kind items) ↔
      ∃ i q w, p = i :: q ∧ ws[i]? = some w ∧ At x q w := by
  constructor
  · rintro (hx | ⟨hws, hw, hx⟩)
    · cases hx
    · cases hws.symm.trans h
      exact ⟨_, _, _, rfl, hw, hx⟩
  · rintro ⟨i, q, w, rfl, hw, hx⟩
    exact .item h hw hx

end Value

/-- All places at which values stand, with these values, from left to right. -/
structure Places (A : Value → List Nat → Prop) (fs : List (List Nat × Value)) : Prop where
  sorted : fs.Pairwise (·.1 < ·.1)
  mem_iff : ∀ p x, (p, x) ∈ fs ↔ A x p

namespace Places

variable {fs gs : List (List Nat × Value)}

lemma leaf {v : Value} (h : v.isFragment = false) : Places (Value.At · · v) [([], v)] where
  sorted := List.pairwise_singleton _ _
  mem_iff p x := by rw [Value.at_leaf_iff h, List.mem_singleton, Prod.mk.injEq]

/-- The value stands at a place in one of the values of a row. -/
def InRow (ws : List Value) (x : Value) (p : List Nat) : Prop :=
  ∃ i q w, p = i :: q ∧ ws[i]? = some w ∧ Value.At x q w

lemma fragment {id : Nat} {kind items : Value} {ws : List Value} (h : items.atHand? = some ws)
    (hs : Places (InRow ws) fs) : Places (Value.At · · (.fragment id kind items)) fs where
  sorted := hs.sorted
  mem_iff p x := (hs.mem_iff p x).trans (Value.at_fragment_iff h).symm

lemma nil : Places (InRow []) [] where
  sorted := .nil
  mem_iff p x := by
    refine ⟨fun h => absurd h List.not_mem_nil, ?_⟩
    rintro ⟨i, q, w, -, hw, -⟩
    cases hw

/-- A place in a row, seen from a row with one value more before it. -/
def later : List Nat → List Nat
  | [] => []
  | i :: p => (i + 1) :: p

lemma later_lt {p q : List Nat} (h : p < q) : later p < later q := by
  rcases p with _ | ⟨i, p⟩ <;> rcases q with _ | ⟨j, q⟩
  · cases h
  · exact List.nil_lt_cons _ _
  · cases h
  · rw [later, later, List.cons_lt_cons_iff]
    rcases List.cons_lt_cons_iff.1 h with hij | ⟨rfl, hpq⟩
    · exact .inl (by omega)
    · exact .inr ⟨rfl, hpq⟩

lemma inRow_cons_iff {w x : Value} {ws : List Value} {p : List Nat} :
    InRow (w :: ws) x p ↔
      (∃ q, p = 0 :: q ∧ Value.At x q w) ∨ ∃ q, p = later q ∧ InRow ws x q := by
  constructor
  · rintro ⟨_ | i, q, u, rfl, hu, hx⟩
    · cases hu
      exact .inl ⟨q, rfl, hx⟩
    · exact .inr ⟨i :: q, rfl, i, q, u, rfl, hu, hx⟩
  · rintro (⟨q, rfl, hx⟩ | ⟨_, rfl, i, q, u, rfl, hu, hx⟩)
    · exact ⟨0, q, w, rfl, rfl, hx⟩
    · exact ⟨i + 1, q, u, rfl, hu, hx⟩

lemma cons {w : Value} {ws : List Value} (h : Places (Value.At · · w) fs)
    (hs : Places (InRow ws) gs) :
    Places (InRow (w :: ws))
      (fs.map (fun f => (0 :: f.1, f.2)) ++ gs.map fun g => (later g.1, g.2)) where
  sorted := by
    refine List.pairwise_append.2 ⟨?_, ?_, ?_⟩
    · -- leaves of the first value
      exact List.pairwise_map.2 (h.sorted.imp fun hlt => List.cons_lt_cons_iff.2 (.inr ⟨rfl, hlt⟩))
    · -- leaves of the others
      exact List.pairwise_map.2 (hs.sorted.imp later_lt)
    · -- one of the first before one of the others
      intro f hf g hg
      obtain ⟨f, -, rfl⟩ := List.mem_map.1 hf
      obtain ⟨⟨p, x⟩, hx, rfl⟩ := List.mem_map.1 hg
      obtain ⟨i, q, u, rfl, -, -⟩ := (hs.mem_iff p x).1 hx
      exact List.cons_lt_cons_iff.2 (.inl (Nat.succ_pos i))
  mem_iff p x := by
    rw [inRow_cons_iff, List.mem_append, List.mem_map, List.mem_map]
    refine or_congr ⟨?_, ?_⟩ ⟨?_, ?_⟩
    · rintro ⟨⟨q, y⟩, hq, he⟩
      cases he
      exact ⟨q, rfl, (h.mem_iff q y).1 hq⟩
    · rintro ⟨q, rfl, hx⟩
      exact ⟨(q, x), (h.mem_iff q x).2 hx, rfl⟩
    · rintro ⟨⟨q, y⟩, hq, he⟩
      cases he
      exact ⟨q, rfl, (hs.mem_iff q y).1 hq⟩
    · rintro ⟨q, rfl, hx⟩
      exact ⟨(q, x), (hs.mem_iff q x).2 hx, rfl⟩

end Places

/-! ### What is flattened -/

namespace Node

/-- The values, if all of them are slots and groups; the first that is not one is told otherwise. -/
def checked (xs : List Value) : Run (List Value) :=
  match xs.find? (!·.isChild) with
  | none => pure xs
  | some x => throw (.notNode x.typeName)

lemma checked_append (xs ys : List Value) :
    checked (xs ++ ys) = do return (← checked xs) ++ (← checked ys) := by
  unfold checked
  rw [List.find?_append]
  cases xs.find? (!·.isChild) with
  | some x => rfl
  | none => cases ys.find? (!·.isChild) <;> rfl

lemma flatten_leaf {v : Value} (h : v.isFragment = false) : flatten v = checked [v] := by
  cases v <;> first | rfl | cases h

/-- Of a row without nodes the first value is told. -/
lemma flattenEach_strangers {ws : List Value} (h : ∀ w ∈ ws, w.isNode = false) :
    flattenEach ws = ws.mapM fun w => throw (.notNode w.typeName) := by
  cases ws with
  | nil => rfl
  | cons w ws =>
    have hw := h w (by simp)
    rw [flattenEach_cons, List.mapM_cons]
    cases w <;> first | rfl | cases hw

lemma forNumbers_strangers (first n : Nat) :
    forNumbers (fun x => (throw (.notNode x.typeName) : Run Value)) first n =
      flattenEach ((List.range n).map fun i : Nat => .int i) := by
  cases n with
  | zero => rfl
  | succ n =>
    rw [List.range_succ_eq_map, List.map_cons, flattenEach_cons]
    rfl

/-- The elements of what is neither a list nor a tuple are no nodes. -/
lemma flattenStrangers_eq {v : Value} {ws : List Value} (h : v.atHand? = some ws)
    (hlist : ∀ xs, v ≠ .list xs) (htuple : ∀ xs, v ≠ .tuple xs) :
    flattenStrangers v = flattenEach ws := by
  cases v with
  | list xs => exact absurd rfl (hlist xs)
  | tuple xs => exact absurd rfl (htuple xs)
  | range n =>
    cases h
    exact forNumbers_strangers 0 n.toNat
  | dict | bytes | text | direction | dimensionMode | spacingMode =>
    cases h
    rw [flattenEach_strangers (List.forall_mem_map.2 fun _ _ => rfl)]
    rfl
  | _ => cases h

lemma flatten_items {id : Nat} {kind items : Value} {ws : List Value}
    (h : items.atHand? = some ws) : flatten (.fragment id kind items) = flattenEach ws := by
  cases items with
  | list xs =>
    cases h
    funext ev s
    exact exec_flattenAll ev s _
  | tuple xs =>
    cases h
    exact flatten_fragment id kind _
  | cursor => cases h
  | _ =>
    rw [← flattenStrangers_eq h (fun _ => by simp) fun _ => by simp]
    rfl

/-! ### Regrouping -/

/-- Rows of values that differ in how fragments are put around them: any run of values in a row,
be it empty, may stand in a fragment instead. -/
inductive Regroups : List Value → List Value → Prop
  | refl (ws : List Value) : Regroups ws ws
  | symm {ws us : List Value} : Regroups ws us → Regroups us ws
  | trans {ws us vs : List Value} : Regroups ws us → Regroups us vs → Regroups ws vs
  | wrap {id : Nat} {kind items : Value} {run : List Value} (before after : List Value) :
      items.atHand? = some run →
      Regroups (before ++ run ++ after) (before ++ .fragment id kind items :: after)

namespace Regroups

variable {ws us vs xs : List Value}

lemma within (h : Regroups ws us) (before after : List Value) :
    Regroups (before ++ ws ++ after) (before ++ us ++ after) := by
  induction h with
  | refl ws => exact .refl _
  | symm _ ih => exact .symm ih
  | trans _ _ ih ih' => exact .trans ih ih'
  | wrap b a h => simpa using Regroups.wrap (before ++ b) (a ++ after) h

lemma append (h : Regroups ws us) (h' : Regroups vs xs) : Regroups (ws ++ vs) (us ++ xs) := by
  have hleft : Regroups (ws ++ vs) (us ++ vs) := by simpa using h.within [] vs
  have hright : Regroups (us ++ vs) (us ++ xs) := by simpa using h'.within us []
  exact hleft.trans hright

lemma flattenEach (h : Regroups ws us) : Node.flattenEach ws = Node.flattenEach us := by
  induction h with
  | refl ws => rfl
  | symm _ ih => exact ih.symm
  | trans _ _ ih ih' => exact ih.trans ih'
  | wrap before after h =>
    simp only [flattenEach_append, flattenEach_cons, flatten_items h, bind_assoc, pure_bind,
      List.append_assoc]

end Regroups

/-- What a node is flattened to are the values at the places in it, if they are slots and groups. -/
lemma exists_places {v : Value} (h : v.Nested) :
    ∃ fs, Places (Value.At · · v) fs ∧ flatten v = checked (fs.map (·.2)) ∧
      Regroups [v] (fs.map (·.2)) := by
  induction h with
  | leaf h => exact ⟨_, .leaf h, flatten_leaf h, .refl _⟩
  | @fragment id kind items ws hws hs ih =>
    suffices hrow : ∃ fs, Places (Places.InRow ws) fs ∧ flattenEach ws = checked (fs.map (·.2)) ∧
        Regroups ws (fs.map (·.2)) by
      obtain ⟨fs, hfs, hflat, hregroups⟩ := hrow
      have hwrap : Regroups ws [.fragment id kind items] := by simpa using Regroups.wrap [] [] hws
      exact ⟨fs, .fragment hws hfs, (flatten_items hws).trans hflat, hwrap.symm.trans hregroups⟩
    clear hws
    induction ws with
    | nil => exact ⟨[], .nil, rfl, .refl _⟩
    | cons w ws ihs =>
      obtain ⟨fs, hfs, hw, hrw⟩ := ih w (by simp)
      obtain ⟨gs, hgs, hws, hrws⟩ :=
        ihs (fun u hu => hs u (by simp [hu])) fun u hu => ih u (by simp [hu])
      have hvalues : (fs.map (fun f => (0 :: f.1, f.2)) ++
          gs.map fun g => (Places.later g.1, g.2)).map (·.2) = fs.map (·.2) ++ gs.map (·.2) := by
        simp only [List.map_append, List.map_map]
        rfl
      refine ⟨_, .cons hfs hgs, ?_, ?_⟩
      · rw [flattenEach_cons, hw, hws, hvalues, checked_append]
      · rw [hvalues]
        exact hrw.append hrws

/-! ### Flattening again -/

lemma flattenEach_children {ns : List Value} (h : AllChildren ns) : flattenEach ns = pure ns := by
  induction ns with
  | nil => rfl
  | cons n ns ih =>
    have hn : flatten n = pure [n] := by
      have := h n (by simp)
      cases n <;> first | rfl | cases this
    rw [flattenEach_cons, hn, ih fun v hv => h v (by simp [hv])]
    rfl

/-- Slots and groups in a row are taken into a fragment and found in it again. -/
lemma exec_flatten_again (ev : Evaluator) (s : Session) (v : Value) :
    ((do flatten (← construct "Fragment" [("items", .list (← flatten v))]) :
      Run (List Value)).exec ev s).1 = ((flatten v).exec ev s).1 := by
  have hchildren := (@yields_flatten ev v s trivial).2
  rcases hv : (flatten v).exec ev s with ⟨e | ns, t⟩
  · rw [exec_bind_error hv]
  · rw [hv] at hchildren
    have hns : AllChildren ns := hchildren ns rfl
    have hnodes : ∀ n ∈ ns, n.isNode = true := by
      intro n hn
      have := hns n hn
      cases n <;> first | rfl | cases this
    rw [exec_bind_ok hv, exec_bind_ok (Block.exec_construct_fragment ev t (.inl rfl) hnodes),
      flatten_fragment, flattenEach_children hns]
    rfl

lemma eq_of_checked {xs ns : List Value} (h : checked xs = pure ns) : xs = ns := by
  have hrun : ((checked xs).exec .none (.initial [] false)).1 = .ok ns := by
    rw [h]
    rfl
  unfold checked at hrun
  split at hrun
  · exact Except.ok.inj hrun
  · cases hrun

/-- **Flattening**: of fragments nested in one another exactly the values at the places within them
are left, each once and from left to right, if all of these are slots and groups. Otherwise the
first that is not one is told. What is left is found again in a fragment of it, and two such nodes
that are flattened to slots and groups are flattened to the same ones exactly if fragments can be
put around runs of values and taken away until one is the other. -/
theorem flatten_places {v : Value} (hv : v.Nested) :
    (∃ fs, Places (Value.At · · v) fs ∧ flatten v = checked (fs.map (·.2))) ∧
    (∀ ev s, ((do flatten (← construct "Fragment" [("items", .list (← flatten v))]) :
      Run (List Value)).exec ev s).1 = ((flatten v).exec ev s).1) ∧
    ∀ w : Value, w.Nested → (Regroups [v] [w] → flatten w = flatten v) ∧
      ∀ ns, flatten v = pure ns → flatten w = pure ns → Regroups [v] [w] := by
  obtain ⟨fs, hfs, hflat, hregroups⟩ := exists_places hv
  refine ⟨⟨fs, hfs, hflat⟩, fun ev s => exec_flatten_again ev s v, fun w hw => ⟨fun h => ?_, ?_⟩⟩
  · rw [← flattenEach_singleton w, ← flattenEach_singleton v, h.flattenEach]
  · intro ns hvns hwns
    obtain ⟨gs, -, hflat', hregroups'⟩ := exists_places hw
    obtain rfl := eq_of_checked (hflat.symm.trans hvns)
    rw [eq_of_checked (hflat'.symm.trans hwns)] at hregroups'
    exact hregroups.trans hregroups'.symm

/-- Two slots and a group between them, in an empty fragment and two others or one by one; and a
list with a number in it. -/
theorem flatten_places_regrouped :
    let z : LayoutSize := ⟨1, ⟨2, .absolute, .zero⟩, ⟨3, .absolute, .zero⟩⟩
    let slot (id : Nat) : Value := .slot id (.text "slot") (.size z) .null .null (.int 1)
    let group : Value := .group 4 (.text "group") (.size z) .null .null (.direction .vertical) .null
      (.tuple [slot 5])
    let fragment (id : Nat) (items : Value) : Value := .fragment id (.text "fragment") items
    let v := fragment 6
      (.list [slot 7, fragment 8 (.tuple []), fragment 9 (.tuple [group, slot 10])])
    let w := fragment 11
      (.tuple [fragment 12 (.list [slot 7]), group, fragment 13 (.list [slot 10])])
    let u := fragment 14 (.list [slot 7, fragment 15 (.list [.int 3, .null]), group])
    flatten v = pure [slot 7, group, slot 10] ∧ Regroups [v] [w] ∧
      ∃ fs, Places (Value.At · · u) fs ∧ checked (fs.map (·.2)) = throw (.notNode "int") := by
  intro z slot group fragment v w u
  have hslot : ∀ id, (slot id).Nested := fun _ => .leaf rfl
  have hgroup : group.Nested := .leaf rfl
  have hnumber : (Value.int 3).Nested := .leaf rfl
  have hnull : Value.null.Nested := .leaf rfl
  have hv : v.Nested := by simp [v, fragment, Value.nested_fragment_iff, hslot, hgroup]
  have hw : w.Nested := by simp [w, fragment, Value.nested_fragment_iff, hslot, hgroup]
  have hu : u.Nested := by
    simp [u, fragment, Value.nested_fragment_iff, hslot, hgroup, hnumber, hnull]
  obtain ⟨fs, hfs, hflat⟩ := (flatten_places hu).1
  exact ⟨rfl, ((flatten_places hv).2.2 w hw).2 _ rfl rfl, fs, hfs, hflat.symm⟩

end Node

end LayoutTree
