import LayoutTree.Proofs.Dict
import LayoutTree.Proofs.Double
import LayoutTree.Proofs.Same

/-!
Values as they are seen where every double in them is seen through a function.

Not-a-numbers that were read of one text differ in their tags alone. Seen without tags they are one
number, and values that differ in nothing else are equal.
-/

namespace LayoutTree

section Through

variable (f : Double → Double)

def Dimension.through (d : Dimension) : Dimension := ⟨d.id, d.mode, f d.value⟩

def LayoutSize.through (z : LayoutSize) : LayoutSize :=
  ⟨z.id, z.width.through f, z.height.through f⟩

def Spacing.through (g : Spacing) : Spacing := ⟨g.id, g.mode, f g.value⟩

def Insets.through (i : Insets) : Insets := ⟨i.id, f i.top, f i.leading, f i.bottom, f i.trailing⟩

namespace Value

mutual

/-- The value with what the function makes of the doubles in it, as far as its equals are to have
them. -/
def through : Value → Value
  | .float x => .float (f x)
  | .list xs => .list (throughAll xs)
  | .tuple xs => .tuple (throughAll xs)
  | .dict i es => .dict i (throughEntries es)
  | .dimension d => .dimension (d.through f)
  | .size z => .size (z.through f)
  | .spacing g => .spacing (g.through f)
  | .insets i => .insets (i.through f)
  | .edges i l t r b => .edges i l.through t.through r.through b.through
  | .slot i k z n e c => .slot i k.through z.through n.through e.through c.through
  | .group i k z n e d g c =>
    .group i k.through z.through n.through e.through d.through g.through c.through
  | .fragment i k x => .fragment i k.through x.through
  | .item i z n e => .item i (z.through f) n.through e.through
  | .itemGroup i z d xs c n e g =>
    .itemGroup i (z.through f) d (throughAll xs) c.through n.through e.through g.through
  | .hostSection i g n x => .hostSection i g.through n.through (f x)
  | .hostLayout i xs => .hostLayout i (throughAll xs)
  | .config r => .config r.through
  | v => v

def throughAll : List Value → List Value
  | [] => []
  | x :: xs => x.through :: throughAll xs

def throughEntries : Fields → Fields
  | [] => []
  | (k, v) :: es => (k, v.through) :: throughEntries es

end

/-- The values are equal where their doubles are seen through the function. -/
def SameThrough (v w : Value) : Prop := (v.through f).same (w.through f) = true

lemma SameThrough.self (v : Value) : v.SameThrough f v := same_self _

end Value

end Through

/-- The value where all not-a-numbers are one. -/
def Value.untagged : Value → Value := through Double.untagged

/-! ### The same doubles -/

namespace Value

lemma size_through_id (z : LayoutSize) : z.through id = z := rfl

mutual

@[simp] lemma through_id (v : Value) : v.through id = v := by
  cases v with
  | list xs => rw [through, throughAll_id xs]
  | tuple xs => rw [through, throughAll_id xs]
  | dict i es => rw [through, throughEntries_id es]
  | edges i l t r b => rw [through, through_id l, through_id t, through_id r, through_id b]
  | slot i k z n e c =>
    rw [through, through_id k, through_id z, through_id n, through_id e, through_id c]
  | group i k z n e d g c =>
    rw [through, through_id k, through_id z, through_id n, through_id e, through_id d,
      through_id g, through_id c]
  | fragment i k x => rw [through, through_id k, through_id x]
  | item i z n e => rw [through, through_id n, through_id e, size_through_id]
  | itemGroup i z d xs c n e g =>
    rw [through, throughAll_id xs, through_id c, through_id n, through_id e, through_id g,
      size_through_id]
  | hostSection i g n x => rw [through, through_id g, through_id n, id]
  | hostLayout i xs => rw [through, throughAll_id xs]
  | config r => rw [through, through_id r]
  | _ => rfl

@[simp] lemma throughAll_id (xs : List Value) : throughAll id xs = xs := by
  cases xs with
  | nil => rfl
  | cons x xs => rw [throughAll, through_id x, throughAll_id xs]

@[simp] lemma throughEntries_id (es : Fields) : throughEntries id es = es := by
  cases es with
  | nil => rfl
  | cons e es =>
    obtain ⟨k, v⟩ := e
    rw [throughEntries, through_id v, throughEntries_id es]

end

/-! ### Identities and entries -/

variable (f : Double → Double)

mutual

/-- Identities of dicts stay what they are. -/
lemma bare_through (v : Value) : (v.through f).bare = v.bare.through f := by
  cases v with
  | list xs => rw [through, bare, bareAll_through xs, bare, through]
  | dict i es => rw [through, bare, bareEntries_through es, bare, through]
  | _ => rfl

lemma bareAll_through (xs : List Value) :
    bareAll (throughAll f xs) = throughAll f (bareAll xs) := by
  cases xs with
  | nil => rfl
  | cons x xs => rw [throughAll, bareAll, bare_through x, bareAll_through xs, bareAll, throughAll]

lemma bareEntries_through (es : Fields) :
    bareEntries (throughEntries f es) = throughEntries f (bareEntries es) := by
  cases es with
  | nil => rfl
  | cons e es =>
    obtain ⟨k, v⟩ := e
    rw [throughEntries, bareEntries, bare_through v, bareEntries_through es, bareEntries,
      throughEntries]

end

lemma throughEntries_put (k : Text) (v : Value) (es : Fields) :
    throughEntries f (es.put k v) = (throughEntries f es).put k (v.through f) := by
  induction es with
  | nil => rfl
  | cons e es ih =>
    obtain ⟨l, w⟩ := e
    rw [throughEntries, Fields.put, Fields.put, ← ih]
    split <;> rfl

lemma sameThrough_list {f : Double → Double} {xs ys : List Value}
    (h : List.Forall₂ (SameThrough f) xs ys) : (list xs).SameThrough f (list ys) := by
  unfold SameThrough
  rw [through, through, same_list]
  induction h with
  | nil => rfl
  | @cons x y xs ys hxy _ ih =>
    rw [throughAll, throughAll, sameAll_cons_cons, ih, Bool.and_true]
    exact hxy

end Value

end LayoutTree
