import LayoutTree.Value.Same
import Mathlib.Tactic.Lemma

/-!
Equality of values of one kind, part by part.
-/

namespace LayoutTree.Value

@[simp] lemma same_size (a b : LayoutSize) : (size a).same (size b) = a.same b := by
  simp [same, compare, alike]

@[simp] lemma same_insets (a b : Insets) : (insets a).same (insets b) = a.same b := by
  simp [same, compare, alike]

@[simp] lemma same_spacing (a b : Spacing) : (spacing a).same (spacing b) = a.same b := by
  simp [same, compare, alike]

/-- A text equals itself and the choices that have it. -/
lemma same_text (v : Value) (t : Text) : v.same (.text t) = (v.text? == some t) := by
  cases v <;>
    simp [same, compare, Comparison.within, alike, quantity?, text?]

@[simp] lemma same_direction (a b : Direction) :
    (direction a).same (direction b) = decide (a = b) := by
  cases a <;> cases b <;> rfl

@[simp] lemma same_edges (i j : Nat) (l l' t t' r r' b b' : Value) :
    (edges i l t r b).same (edges j l' t' r' b') =
      (l.same l' && (t.same t' && (r.same r' && b.same b'))) := by
  simp [same, compare, Comparison.within, Comparison.cons, Comparison.nil, alike, parts]

@[simp] lemma same_slot (i j : Nat) (k k' s s' n n' e e' c c' : Value) :
    (slot i k s n e c).same (slot j k' s' n' e' c') =
      (k.same k' && (s.same s' && (n.same n' && (e.same e' && c.same c')))) := by
  simp [same, compare, Comparison.within, Comparison.cons, Comparison.nil, alike, parts]

@[simp] lemma same_group (i j : Nat) (k k' s s' n n' e e' d d' g g' c c' : Value) :
    (group i k s n e d g c).same (group j k' s' n' e' d' g' c') =
      (k.same k' && (s.same s' && (n.same n' && (e.same e' && (d.same d' &&
        (g.same g' && c.same c')))))) := by
  simp [same, compare, Comparison.within, Comparison.cons, Comparison.nil, alike, parts]

@[simp] lemma same_fragment (i j : Nat) (k k' x x' : Value) :
    (fragment i k x).same (fragment j k' x') = (k.same k' && x.same x') := by
  simp [same, compare, Comparison.within, Comparison.cons, Comparison.nil, alike, parts]

@[simp] lemma same_item (id id' : Nat) (y z : LayoutSize) (i j e f : Value) :
    (item id y i e).same (item id' z j f) = (y.same z && (i.same j && e.same f)) := by
  simp [same, compare, Comparison.within, Comparison.cons, Comparison.nil, alike, parts]

@[simp] lemma same_itemGroup (id id' : Nat) (y z : LayoutSize) (c d : Direction)
    (xs ys : List Value) (m n i j e f g h : Value) :
    (itemGroup id y c xs m i e g).same (itemGroup id' z d ys n j f h) =
      ((y.same z && c == d) &&
        (m.same n && (i.same j && (e.same f && (g.same h && sameAll xs ys))))) := by
  simp [same, compare, Comparison.within, Comparison.cons, alike, parts, sameAll]

@[simp] lemma same_hostSection (id id' : Nat) (g h i j : Value) (x y : Double) :
    (hostSection id g i x).same (hostSection id' h j y) = (x.same y && (g.same h && i.same j)) := by
  simp [same, compare, Comparison.within, Comparison.cons, Comparison.nil, alike, parts]

lemma same_hostLayout (id id' : Nat) (xs ys : List Value) :
    (hostLayout id xs).same (hostLayout id' ys) = sameAll xs ys := by
  simp [same, compare, Comparison.within, alike, parts, sameAll]

end LayoutTree.Value
