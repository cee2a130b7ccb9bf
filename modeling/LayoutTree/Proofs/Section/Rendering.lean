import LayoutTree.Proofs.Compose.Unrolled
import LayoutTree.Proofs.Descriptor.Units

/-!
Host objects of the model engine and descriptors, on common ground: a host object is rendered as a
descriptor that leaves out no default, and a descriptor is filled in with the defaults that it
leaves out.
-/

namespace LayoutTree

/-! ### Defaults -/

namespace Fields

/-- Puts a value under a key where there is none. -/
def fill (key : Text) (v : Value) (es : Fields) : Fields :=
  if (es.get? key).isSome then es else es.put key v

lemma get?_fill (key k : Text) (v : Value) (es : Fields) :
    (es.fill key v).get? k = if k = key then some ((es.get? key).getD v) else es.get? k := by
  unfold fill
  rcases h : es.get? key with _ | w
  · by_cases hk : k = key
    · simp [hk]
    · simp [hk, get?_put_of_ne hk]
  · by_cases hk : k = key
    · simp [hk, h]
    · simp [hk]

lemma nodup_fill {key : Text} {v : Value} {es : Fields} (h : es.keys.Nodup) :
    (es.fill key v).keys.Nodup := by
  unfold fill
  split
  · exact h
  · exact nodup_put h

lemma keys_fill_subset {key : Text} {v : Value} {es : Fields} {ks : List Text}
    (h : es.keys ⊆ ks) (hk : key ∈ ks) : (es.fill key v).keys ⊆ ks := by
  unfold fill
  split
  · exact h
  · rw [keys_put]
    split
    · exact h
    · exact List.append_subset.2 ⟨h, by simpa using hk⟩

end Fields

namespace Descriptor

/-- Insets that are zero at every edge. -/
def zeros : Value := ofInsets (.none 0)

/-- The entries of a descriptor with what an item, a group or a section may leave out. -/
def completed (es : Fields) : Fields :=
  let type := (es.get? "type").bind Value.text?
  if type = some "section" then
    (es.fill "contentInsets" zeros).fill "interGroupSpacing" (.float .zero)
  else if type = some "item" ∨ type = some "group" then es.fill "contentInsets" zeros
  else es

end Descriptor

open Descriptor

namespace Value

mutual

/-- A descriptor with all insets and all space between groups written out at every depth, zero
where they are left out. Identities of dicts are dropped. -/
def filled : Value → Value
  | .list xs => .list (filledAll xs)
  | .dict _ es => .dict 0 (completed (filledEntries es))
  | v => v

def filledAll : List Value → List Value
  | [] => []
  | x :: xs => x.filled :: filledAll xs

def filledEntries : Fields → Fields
  | [] => []
  | (k, v) :: es => (k, v.filled) :: filledEntries es

end

mutual

lemma filled_bare (v : Value) : v.bare.filled = v.filled := by
  cases v with
  | list xs => rw [bare, filled, filled, filledAll_bareAll]
  | dict id es => rw [bare, filled, filled, filledEntries_bareEntries]
  | _ => rfl

lemma filledAll_bareAll (xs : List Value) : filledAll (bareAll xs) = filledAll xs := by
  cases xs with
  | nil => rfl
  | cons x xs => rw [bareAll, filledAll, filledAll, filled_bare, filledAll_bareAll]

lemma filledEntries_bareEntries (es : Fields) :
    filledEntries (bareEntries es) = filledEntries es := by
  cases es with
  | nil => rfl
  | cons e es =>
    obtain ⟨k, v⟩ := e
    rw [bareEntries, filledEntries, filledEntries, filled_bare, filledEntries_bareEntries]

end

/-! ### Rendering -/

/-- An entry of a field that is left out if the field is null. -/
def entryIfSet (key : Text) (field described : Value) : Fields :=
  if field.isNull then [] else [(key, described)]

mutual

/-- A host object of the model engine in the words of descriptors: subitems as they are laid out,
insets and space between groups in any case, other spacing only if it is set. -/
def rendered : Value → Value
  | .spacing g => ofSpacing g
  | .insets i => ofInsets i
  | .edges _ l t r b => .dict 0 [("leading", l.rendered), ("top", t.rendered),
      ("trailing", r.rendered), ("bottom", b.rendered)]
  | .item _ z i e => .dict 0 (("type", .text "item") :: ("layoutSize", ofSize z)
      :: ("contentInsets", i.rendered) :: entryIfSet "edgeSpacing" e e.rendered)
  | .itemGroup _ z d xs n i e g => .dict 0 (("type", .text "group")
      :: ("direction", .text d.text) :: ("layoutSize", ofSize z)
      :: ("subitems", .list (unrolledSubitems n (renderedAll xs)).2)
      :: ("contentInsets", i.rendered) :: (entryIfSet "edgeSpacing" e e.rendered
        ++ entryIfSet "interItemSpacing" g g.rendered))
  | .hostSection _ g i x => .dict 0 [("type", .text "section"), ("group", g.rendered),
      ("contentInsets", i.rendered), ("interGroupSpacing", .float x)]
  | .hostLayout _ xs => .dict 0 [("type", .text "layout"), ("sections", .list (renderedAll xs))]
  | v => v

def renderedAll : List Value → List Value
  | [] => []
  | x :: xs => x.rendered :: renderedAll xs

end

lemma renderedAll_eq_map (xs : List Value) : renderedAll xs = xs.map rendered := by
  induction xs with
  | nil => rfl
  | cons x xs ih => rw [renderedAll, ih, List.map_cons]

/-- The subitems are rendered as they are laid out. -/
lemma rendered_of_effective {n : Value} {xs ys : List Value} (hn : ∀ b, n ≠ .bool b)
    (h : effectiveSubitems xs n = .ok ys) :
    (unrolledSubitems n (renderedAll xs)).2 = renderedAll ys := by
  rw [renderedAll_eq_map, renderedAll_eq_map, unrolledSubitems_of_effective hn h]

end Value

/-! ### Boxes -/

namespace Descriptor

open Value

lemma filled_ofSize (z : LayoutSize) : (ofSize z).filled = ofSize z := rfl

lemma filled_ofInsets (i : Insets) : (ofInsets i).filled = ofInsets i := rfl

lemma filled_ofSpacing (g : Spacing) : (ofSpacing g).filled = ofSpacing g := rfl

lemma filled_ofEdges (e : EdgeSpacing) : (ofEdges e).filled = ofEdges e := by
  obtain ⟨id, l, t, r, b⟩ := e
  cases l <;> cases t <;> cases r <;> cases b <;> rfl

lemma filledEntries_extras (i : Option Insets) (e : Option EdgeSpacing) (g : Option Spacing) :
    filledEntries (extras i e g) = extras i e g := by
  cases i <;> cases e <;> cases g <;>
    simp [extras, entry, filledEntries, filled_ofInsets, filled_ofEdges, filled_ofSpacing]

/-- The insets of a slot or a group are the only field that its descriptor may leave out. -/
lemma filled_slot (s : Slot) : (Tree.slot s).descriptor.filled =
    .dict 0 (Fields.fill "contentInsets" zeros (Tree.slot s).entries) := by
  rw [Tree.descriptor, filled, Tree.entries]
  simp only [filledEntries, filled_ofSize, filledEntries_extras]
  rfl

lemma filled_group (f : Frame) (ts : List Tree) : (Tree.group f ts).descriptor.filled =
    .dict 0 (Fields.fill "contentInsets" zeros
      (groupEntries f (filledAll (Tree.descriptors ts)))) := by
  rw [Tree.descriptor, filled, Tree.entries, groupEntries]
  simp only [filledEntries, filled_ofSize, filledEntries_extras]
  rfl

end Descriptor

namespace Value

lemma rendered_edges (e : EdgeSpacing) : e.toValue.rendered = ofEdges e := by
  obtain ⟨id, l, t, r, b⟩ := e
  cases l <;> cases t <;> cases r <;> cases b <;> rfl

lemma entryIfSet_ofOption {α : Type} (key : Text) {f g : α → Value} (o : Option α)
    (hf : ∀ a, (f a).isNull = false) (h : ∀ a, (f a).rendered = g a) :
    entryIfSet key (ofOption f o) (ofOption f o).rendered = entry key (o.map g) := by
  cases o with
  | none => rfl
  | some a =>
    rw [ofOption, entryIfSet, if_neg (by simp [hf a]), h]
    rfl

/-- An item is rendered as the descriptor of a slot that has the insets. -/
lemma rendered_item (id : Nat) (s : Slot) (i : Insets) :
    (item id s.size (.insets i) (.ofOption EdgeSpacing.toValue s.edges)).rendered =
      (Tree.slot { s with insets := some i }).descriptor := by
  rw [rendered, entryIfSet_ofOption "edgeSpacing" s.edges (fun _ => rfl) rendered_edges,
    Tree.descriptor, Tree.entries]
  rcases s.edges <;> rfl

lemma rendered_itemGroup (id : Nat) (f : Frame) (xs : List Value) (n : Value) (i : Insets) :
    (itemGroup id f.size f.direction xs n (.insets i) (.ofOption EdgeSpacing.toValue f.edges)
      (.ofOption .spacing f.spacing)).rendered =
      .dict 0 (groupEntries { f with insets := some i }
        (unrolledSubitems n (renderedAll xs)).2) := by
  rw [rendered, entryIfSet_ofOption "edgeSpacing" f.edges (fun _ => rfl) rendered_edges,
    entryIfSet_ofOption "interItemSpacing" f.spacing (fun _ => rfl) fun _ => rfl, groupEntries]
  rcases f.edges <;> rcases f.spacing <;> rfl

end Value

end LayoutTree
