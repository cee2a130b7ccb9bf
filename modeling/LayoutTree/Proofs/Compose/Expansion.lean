import LayoutTree.Proofs.Compose.Simulation
import LayoutTree.Proofs.Same

/-!
Repeating an item is listing it: with every repeated group replaced by the group of its copies, the
plan of a tree is, up to equality of the values in it, the plan without repetition.
-/

namespace LayoutTree

namespace Plan

mutual

/-- A plan with every repeated group replaced by the group that lists its copies. -/
def expand : Plan → Plan
  | item z => item z
  | group d z ps => group d z (expandAll ps)
  | repeated d z p n => group d z (List.replicate n p.expand)
  | insets p i => insets p.expand i
  | edges p e => edges p.expand e
  | spacing p g => spacing p.expand g

def expandAll : List Plan → List Plan
  | [] => []
  | p :: ps => p.expand :: expandAll ps

end

mutual

/-- Two plans make the same calls with equal values. -/
inductive Like : Plan → Plan → Prop
  | item {y z : LayoutSize} : y.same z = true → Like (item y) (item z)
  | group {y z : LayoutSize} (d : Direction) {ps qs : List Plan} :
      y.same z = true → AllLike ps qs → Like (group d y ps) (group d z qs)
  | repeated {y z : LayoutSize} (d : Direction) {p q : Plan} (n : Nat) :
      y.same z = true → Like p q → Like (repeated d y p n) (repeated d z q n)
  | insets {p q : Plan} {i j : Insets} :
      Like p q → i.same j = true → Like (insets p i) (insets q j)
  | edges {p q : Plan} {e f : EdgeSpacing} :
      Like p q → e.toValue.same f.toValue = true → Like (edges p e) (edges q f)
  | spacing {p q : Plan} {g h : Spacing} :
      Like p q → g.same h = true → Like (spacing p g) (spacing q h)

inductive AllLike : List Plan → List Plan → Prop
  | nil : AllLike [] []
  | cons {p q : Plan} {ps qs : List Plan} :
      Like p q → AllLike ps qs → AllLike (p :: ps) (q :: qs)

end

lemma AllLike.append {ps qs ps' qs' : List Plan} (h : AllLike ps qs) (h' : AllLike ps' qs') :
    AllLike (ps ++ ps') (qs ++ qs') := by
  induction ps generalizing qs with
  | nil =>
    cases h
    exact h'
  | cons p ps ih =>
    cases h with
    | cons hp hps => exact .cons hp (ih hps)

lemma AllLike.length_eq {ps qs : List Plan} (h : AllLike ps qs) : ps.length = qs.length := by
  induction ps generalizing qs with
  | nil =>
    cases h
    rfl
  | cons p ps ih =>
    cases h with
    | cons hp hps => rw [List.length_cons, List.length_cons, ih hps]

lemma AllLike.replicate {p q : Plan} (h : p.Like q) (n : Nat) :
    AllLike (List.replicate n p) (List.replicate n q) := by
  induction n with
  | zero => exact .nil
  | succ n ih => exact .cons h ih

lemma AllLike.of_forall₂ {ps qs : List Plan}
    (h : List.Forall₂ (fun p q => p.Like q.expand) ps qs) : AllLike ps (expandAll qs) := by
  induction h with
  | nil => exact .nil
  | cons h _ ih => exact .cons h ih

/-! ### Configuration -/

lemma expand_configured (p : Plan) (i : Option Insets) (e : Option EdgeSpacing) :
    (p.configured i e).expand = p.expand.configured i e := by
  cases i <;> cases e <;> rfl

lemma Like.configured {p q : Plan} {i j : Option Insets} {e f : Option EdgeSpacing}
    (h : p.Like q) (hi : (Value.ofOption .insets i).same (.ofOption .insets j) = true)
    (he : (Value.ofOption EdgeSpacing.toValue e).same (.ofOption EdgeSpacing.toValue f) = true) :
    (p.configured i e).Like (q.configured j f) := by
  have hinsets : (i.elim p p.insets).Like (j.elim q q.insets) := by
    rcases i with _ | i <;> rcases j with _ | j
    · exact h
    · cases hi
    · cases hi
    · exact .insets h (by simpa [Value.ofOption] using hi)
  rcases e with _ | e <;> rcases f with _ | f
  · exact hinsets
  · cases he
  · cases he
  · exact .edges hinsets he

end Plan

namespace Slot

/-- Slots of one configuration make equal items. -/
lemma leaf_like {s t : Slot} (h : s.alike t = true) : s.leaf.Like t.leaf := by
  unfold alike signature at h
  simp only [Value.sameAll_cons_cons, Value.same_size, Bool.and_eq_true] at h
  obtain ⟨hz, hi, he, -⟩ := h
  exact Plan.Like.configured (.item hz) hi he

lemma expand_leaf (s : Slot) : s.leaf.expand = s.leaf := Plan.expand_configured ..

lemma leaf_like_expand (s : Slot) : s.leaf.Like s.leaf.expand := by
  rw [expand_leaf]
  exact leaf_like (by simp [alike, signature])

end Slot

namespace Frame

/-- The configuration of a group does not depend on what it is made of. -/
lemma plan_like (f : Frame) {p q : Plan} (h : p.Like q) : (f.plan p).Like (f.plan q) := by
  have hc : (p.configured f.insets f.edges).Like (q.configured f.insets f.edges) :=
    h.configured (by simp) (by simp)
  unfold plan
  rcases f.spacing with _ | g
  · exact hc
  · exact .spacing hc (by simp)

lemma expand_plan (f : Frame) (p : Plan) : (f.plan p).expand = f.plan p.expand := by
  unfold plan
  rw [← Plan.expand_configured]
  cases f.spacing <;> rfl

end Frame

namespace Tree

/-- The copies that uniform slots make are copies of the first of their items. -/
lemma allLike_replicate {s : Slot} {ss : List Slot} (h : ∀ t ∈ ss, t.alike s = true) :
    Plan.AllLike (ss.flatMap fun t => List.replicate t.count t.leaf)
      (List.replicate (Slot.total ss) s.leaf) := by
  induction ss with
  | nil => exact .nil
  | cons t ss ih =>
    have htotal : Slot.total (t :: ss) = t.count + Slot.total ss := by simp [Slot.total]
    rw [List.flatMap_cons, htotal, List.replicate_add]
    exact (Plan.AllLike.replicate (Slot.leaf_like (h t (by simp))) t.count).append
      (ih fun u hu => h u (by simp [hu]))

/-- The group of all subitems is like the one that repeats an item where it can. -/
lemma core_like {repeats : Bool} (f : Frame) {ts : List Tree} {xs ys : List Plan}
    (hy : allSubitems false 0 ts = .ok ys) (h : List.Forall₂ (fun q p => q.Like p.expand) ys xs) :
    (f.core none ys).Like (f.core (if repeats then repetition? ts else none) xs).expand := by
  rcases hr : (if repeats then repetition? ts else none) with _ | ⟨leaf, n⟩
  · exact .group f.direction (by simp) (.of_forall₂ h)
  · have hrep : repetition? ts = some (leaf, n) := by
      split at hr
      · exact hr
      · cases hr
    obtain ⟨s, ss, hs, hall, -, rfl, rfl⟩ := repetition?_eq_some_iff.1 hrep
    rw [allSubitems_of_slots hs hy]
    change Plan.Like _ (.group _ _ (List.replicate _ s.leaf.expand))
    rw [Slot.expand_leaf]
    exact .group f.direction (by simp) (allLike_replicate hall)

lemma groupPlan_like {repeats : Bool} (f : Frame) (ts : List Tree)
    (h : Agrees (List.Forall₂ fun q p => q.Like p.expand) (allSubitems false 0 ts)
      (allSubitems repeats 0 ts)) :
    Agrees (fun q p => q.Like p.expand) (plan false f ts) (plan repeats f ts) := by
  unfold plan groupPlan
  by_cases hts : ts.isEmpty
  · rw [if_pos hts, if_pos hts]
    exact .error _
  rw [if_neg hts, if_neg hts]
  generalize allSubitems repeats 0 ts = x at h
  rcases hy : allSubitems false 0 ts with e | ys <;> rw [hy] at h <;> cases h
  · exact .error e
  · rename_i xs h
    refine .ok ?_
    rw [f.expand_plan]
    exact f.plan_like (core_like f hy h)

mutual

lemma subitems_like (repeats : Bool) (t : Tree) :
    Agrees (List.Forall₂ fun q p => q.Like p.expand) (t.subitems false) (t.subitems repeats) := by
  cases t with
  | slot s =>
    rw [subitems, subitems]
    rcases hx : s.items with e | xs
    · exact .error e
    · rw [Slot.items_eq hx]
      exact .ok (forall₂_replicate (A := fun q p : Plan => q.Like p.expand) s.leaf_like_expand _)
  | group f ts =>
    exact (groupPlan_like f ts (allSubitems_like repeats 0 ts)).map fun _ _ h => .cons h .nil

lemma allSubitems_like (repeats : Bool) (held : Nat) (ts : List Tree) :
    Agrees (List.Forall₂ fun q p => q.Like p.expand) (allSubitems false held ts)
      (allSubitems repeats held ts) := by
  cases ts with
  | nil => exact .ok .nil
  | cons t ts =>
    exact (subitems_like repeats t).appended held fun n => allSubitems_like repeats n ts

end

/-- Groups have plans with and without repetition, which are alike once no item is repeated, or have
none for the same reason. -/
lemma agrees_plans (repeats : Bool) (f : Frame) (ts : List Tree) :
    Agrees (fun q p => plan false f ts = .ok q ∧ plan repeats f ts = .ok p ∧ q.Like p.expand)
      (plan false f ts) (plan repeats f ts) := by
  have h := groupPlan_like f ts (allSubitems_like repeats 0 ts)
  rcases hq : plan false f ts with e | q <;> rcases hp : plan repeats f ts with e' | p <;>
    rw [hq, hp] at h <;> cases h
  · exact .error e
  · rename_i h
    exact .ok ⟨rfl, rfl, h⟩

end Tree

end LayoutTree
