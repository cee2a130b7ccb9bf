import LayoutTree.Proofs.Descriptor.Equality

/-!
Descriptors can be read back. What is read is the tree that was described, in its unit form and
without identities, so a descriptor loses nothing else of a tree.
-/

namespace LayoutTree

/-! ### Identities -/

def Dimension.bare (d : Dimension) : Dimension := { d with id := 0 }

def LayoutSize.bare (z : LayoutSize) : LayoutSize := ⟨0, z.width.bare, z.height.bare⟩

def Spacing.bare (g : Spacing) : Spacing := { g with id := 0 }

def Insets.bare (i : Insets) : Insets := { i with id := 0 }

def EdgeSpacing.bare (e : EdgeSpacing) : EdgeSpacing :=
  ⟨0, e.leading.map (·.bare), e.top.map (·.bare), e.trailing.map (·.bare), e.bottom.map (·.bare)⟩

def Slot.bare (s : Slot) : Slot :=
  { s with id := 0, size := s.size.bare, insets := s.insets.map (·.bare),
           edges := s.edges.map (·.bare) }

def Frame.bare (f : Frame) : Frame :=
  { f with id := 0, size := f.size.bare, insets := f.insets.map (·.bare),
           edges := f.edges.map (·.bare), spacing := f.spacing.map (·.bare) }

mutual

/-- The tree as it is without identities. -/
def Tree.bare : Tree → Tree
  | .slot s => .slot s.bare
  | .group f ts => .group f.bare (Tree.allBare ts)

def Tree.allBare : List Tree → List Tree
  | [] => []
  | t :: ts => t.bare :: Tree.allBare ts

end

/-! ### Reading -/

def DimensionMode.ofLabel? (t : Text) : Option DimensionMode := all.find? (·.label == t)

def SpacingMode.ofLabel? (t : Text) : Option SpacingMode := all.find? (·.label == t)

def Value.float? : Value → Option Double
  | .float x => some x
  | _ => none

namespace Descriptor

variable {α : Type}

/-- Reads what stands under a key. -/
def readAt (es : Fields) (key : Text) (read : Value → Option α) : Option α :=
  (es.get? key).bind read

/-- Reads what may be left out. -/
def readIfSet (es : Fields) (key : Text) (read : Value → Option α) : Option (Option α) :=
  match es.get? key with
  | none => some none
  | some v => some <$> read v

/-- Reads what may be null. -/
def readNullable (read : Value → Option α) : Value → Option (Option α)
  | .null => some none
  | v => some <$> read v

def dimension? (v : Value) : Option Dimension :=
  return ⟨0, ← readAt v.entries "kind" fun k => k.text?.bind DimensionMode.ofLabel?,
    ← readAt v.entries "value" Value.float?⟩

def size? (v : Value) : Option LayoutSize :=
  return ⟨0, ← readAt v.entries "widthDimension" dimension?,
    ← readAt v.entries "heightDimension" dimension?⟩

def spacing? (v : Value) : Option Spacing :=
  return ⟨0, ← readAt v.entries "kind" fun k => k.text?.bind SpacingMode.ofLabel?,
    ← readAt v.entries "value" Value.float?⟩

def insets? (v : Value) : Option Insets :=
  return ⟨0, ← readAt v.entries "top" Value.float?, ← readAt v.entries "leading" Value.float?,
    ← readAt v.entries "bottom" Value.float?, ← readAt v.entries "trailing" Value.float?⟩

def edges? (v : Value) : Option EdgeSpacing :=
  return ⟨0, ← readAt v.entries "leading" (readNullable spacing?),
    ← readAt v.entries "top" (readNullable spacing?),
    ← readAt v.entries "trailing" (readNullable spacing?),
    ← readAt v.entries "bottom" (readNullable spacing?)⟩

/-- Reads a slot for one item, or a group of what its subitems were read as. -/
def treeOf? (es : Fields) (subitems : Option (List Tree)) : Option Tree := do
  let size ← readAt es "layoutSize" size?
  let insets ← readIfSet es "contentInsets" insets?
  let edges ← readIfSet es "edgeSpacing" edges?
  let type ← readAt es "type" Value.text?
  if type = "item" then
    return .slot ⟨0, size, insets, edges, 1, Nat.one_pos⟩
  else if type = "group" then
    let direction ← readAt es "direction" fun d => d.text?.bind Direction.ofText?
    let spacing ← readIfSet es "interItemSpacing" spacing?
    return .group ⟨0, size, insets, edges, direction, spacing⟩ (← subitems)
  else none

mutual

/-- The tree that a descriptor describes. -/
def rebuild? : Value → Option Tree
  | .dict _ es => treeOf? es (rebuildSubitems? es)
  | _ => none

def rebuildSubitems? : Fields → Option (List Tree)
  | [] => none
  | (k, v) :: es => if k = "subitems" then rebuildList? v else rebuildSubitems? es

def rebuildList? : Value → Option (List Tree)
  | .list xs => rebuildAll? xs
  | _ => none

def rebuildAll? : List Value → Option (List Tree)
  | [] => some []
  | x :: xs => return (← rebuild? x) :: (← rebuildAll? xs)

end

lemma rebuildSubitems?_eq (es : Fields) :
    rebuildSubitems? es = readAt es "subitems" rebuildList? := by
  induction es with
  | nil => rfl
  | cons e es ih =>
    obtain ⟨k, v⟩ := e
    rw [rebuildSubitems?, ih, readAt, readAt, Fields.get?_cons]
    by_cases h : k = "subitems"
    · rw [if_pos h, if_pos h.symm]
      rfl
    · rw [if_neg h, if_neg (Ne.symm h)]

/-! ### Reading what was described -/

lemma dimension?_ofDimension (d : Dimension) : dimension? (ofDimension d) = some d.bare := by
  obtain ⟨id, m, x⟩ := d
  cases m <;> rfl

lemma size?_ofSize (z : LayoutSize) : size? (ofSize z) = some z.bare := by
  have h : size? (ofSize z) = do
    return ⟨0, ← dimension? (ofDimension z.width), ← dimension? (ofDimension z.height)⟩ := rfl
  rw [h, dimension?_ofDimension, dimension?_ofDimension]
  rfl

lemma spacing?_ofSpacing (g : Spacing) : spacing? (ofSpacing g) = some g.bare := by
  obtain ⟨id, m, x⟩ := g
  cases m <;> rfl

lemma insets?_ofInsets (i : Insets) : insets? (ofInsets i) = some i.bare := rfl

lemma readNullable_ofSpacing (g : Option Spacing) :
    readNullable spacing? (.ofOption ofSpacing g) = some (g.map (·.bare)) := by
  cases g with
  | none => rfl
  | some g =>
    have h : readNullable spacing? (.ofOption ofSpacing (some g)) =
        some <$> spacing? (ofSpacing g) := rfl
    rw [h, spacing?_ofSpacing]
    rfl

lemma edges?_ofEdges (e : EdgeSpacing) : edges? (ofEdges e) = some e.bare := by
  obtain ⟨id, l, t, r, b⟩ := e
  have h : edges? (ofEdges ⟨id, l, t, r, b⟩) = do
    return ⟨0, ← readNullable spacing? (.ofOption ofSpacing l),
      ← readNullable spacing? (.ofOption ofSpacing t),
      ← readNullable spacing? (.ofOption ofSpacing r),
      ← readNullable spacing? (.ofOption ofSpacing b)⟩ := rfl
  rw [h]
  simp only [readNullable_ofSpacing]
  rfl

lemma readIfSet_map {α β : Type} {es : Fields} {key : Text} {read : Value → Option β}
    {o : Option α} {f : α → Value} {g : α → β} (hes : es.get? key = o.map f)
    (h : ∀ a, read (f a) = some (g a)) : readIfSet es key read = some (o.map g) := by
  unfold readIfSet
  rw [hes]
  cases o with
  | none => rfl
  | some a =>
    rw [Option.map_some]
    dsimp only
    rw [h a]
    rfl

lemma treeOf?_slot {s : Slot} (h : s.count = 1) (subitems : Option (List Tree)) :
    treeOf? (Tree.slot s).entries subitems = some (.slot s.bare) := by
  obtain ⟨id, z, i, e, n, hn⟩ := s
  obtain rfl : n = 1 := h
  let es := (Tree.slot ⟨id, z, i, e, 1, hn⟩).entries
  have hz : readAt es "layoutSize" size? = some z.bare := size?_ofSize z
  have hi : readIfSet es "contentInsets" insets? = some (i.map (·.bare)) :=
    readIfSet_map (by simp [es, Tree.entries, Fields.get?_cons, get?_extras]) insets?_ofInsets
  have he : readIfSet es "edgeSpacing" edges? = some (e.map (·.bare)) :=
    readIfSet_map (by simp [es, Tree.entries, Fields.get?_cons, get?_extras]) edges?_ofEdges
  rw [treeOf?, hz, hi, he]
  rfl

lemma treeOf?_group (f : Frame) (xs : List Value) (subitems : Option (List Tree)) :
    treeOf? (groupEntries f xs) subitems = subitems.map (Tree.group f.bare) := by
  obtain ⟨id, z, i, e, d, g⟩ := f
  let es := groupEntries ⟨id, z, i, e, d, g⟩ xs
  have hz : readAt es "layoutSize" size? = some z.bare := size?_ofSize z
  have hd : readAt es "direction" (fun v => v.text?.bind Direction.ofText?) = some d :=
    d.ofText?_text
  have hi : readIfSet es "contentInsets" insets? = some (i.map (·.bare)) :=
    readIfSet_map (by simp [es, groupEntries, Fields.get?_cons, get?_extras]) insets?_ofInsets
  have he : readIfSet es "edgeSpacing" edges? = some (e.map (·.bare)) :=
    readIfSet_map (by simp [es, groupEntries, Fields.get?_cons, get?_extras]) edges?_ofEdges
  have hg : readIfSet es "interItemSpacing" spacing? = some (g.map (·.bare)) :=
    readIfSet_map (by simp [es, groupEntries, Fields.get?_cons, get?_extras]) spacing?_ofSpacing
  rw [treeOf?, hz, hi, he, hd, hg]
  cases subitems <;> rfl

mutual

lemma rebuild?_descriptor (t : Tree) (h : t.Single) : rebuild? t.descriptor = some t.bare := by
  cases t with
  | slot s => exact treeOf?_slot h _
  | group f ts =>
    have hs : rebuildSubitems? (Tree.group f ts).entries = some (Tree.allBare ts) := by
      rw [rebuildSubitems?_eq]
      exact rebuildAll?_descriptors ts h
    rw [Tree.descriptor, rebuild?, hs]
    exact treeOf?_group f _ _

lemma rebuildAll?_descriptors (ts : List Tree) (h : Tree.AllSingle ts) :
    rebuildAll? (Tree.descriptors ts) = some (Tree.allBare ts) := by
  cases ts with
  | nil => rfl
  | cons t ts =>
    rw [Tree.descriptors, rebuildAll?, ← Tree.descriptor, rebuild?_descriptor t h.1,
      rebuildAll?_descriptors ts h.2]
    rfl

end

/-! ### Identities of dicts do not matter -/

variable {read : Value → Option α}

lemma entries_bare (v : Value) : v.bare.entries = Value.bareEntries v.entries := by
  cases v <;> rfl

lemma text?_bare (v : Value) : v.bare.text? = v.text? := by
  cases v <;> rfl

lemma float?_bare (v : Value) : v.bare.float? = v.float? := by
  cases v <;> rfl

lemma readAt_bare (h : ∀ v : Value, read v.bare = read v) (es : Fields) (key : Text) :
    readAt (Value.bareEntries es) key read = readAt es key read := by
  rw [readAt, readAt, Value.get?_bareEntries]
  cases es.get? key with
  | none => rfl
  | some v => exact h v

lemma readIfSet_bare (h : ∀ v : Value, read v.bare = read v) (es : Fields) (key : Text) :
    readIfSet (Value.bareEntries es) key read = readIfSet es key read := by
  rw [readIfSet, readIfSet, Value.get?_bareEntries]
  cases es.get? key with
  | none => rfl
  | some v => exact congrArg (some <$> ·) (h v)

lemma readNullable_bare (h : ∀ v : Value, read v.bare = read v) (v : Value) :
    readNullable read v.bare = readNullable read v := by
  cases v <;> first | rfl | exact congrArg (some <$> ·) (h _)

lemma dimension?_bare (v : Value) : dimension? v.bare = dimension? v := by
  rw [dimension?, dimension?, entries_bare, readAt_bare fun v => by rw [text?_bare],
    readAt_bare float?_bare]

lemma size?_bare (v : Value) : size? v.bare = size? v := by
  rw [size?, size?, entries_bare, readAt_bare dimension?_bare, readAt_bare dimension?_bare]

lemma spacing?_bare (v : Value) : spacing? v.bare = spacing? v := by
  rw [spacing?, spacing?, entries_bare, readAt_bare fun v => by rw [text?_bare],
    readAt_bare float?_bare]

lemma insets?_bare (v : Value) : insets? v.bare = insets? v := by
  simp only [insets?, entries_bare, readAt_bare float?_bare]

lemma edges?_bare (v : Value) : edges? v.bare = edges? v := by
  simp only [edges?, entries_bare, readAt_bare (readNullable_bare spacing?_bare)]

lemma treeOf?_bare (es : Fields) (subitems : Option (List Tree)) :
    treeOf? (Value.bareEntries es) subitems = treeOf? es subitems := by
  rw [treeOf?, treeOf?, readAt_bare size?_bare, readIfSet_bare insets?_bare,
    readIfSet_bare edges?_bare, readAt_bare text?_bare, readIfSet_bare spacing?_bare,
    readAt_bare fun v => by rw [text?_bare]]

mutual

lemma rebuild?_bare (v : Value) : rebuild? v.bare = rebuild? v := by
  cases v with
  | dict id es => rw [Value.bare, rebuild?, rebuild?, treeOf?_bare, rebuildSubitems?_bare]
  | _ => rfl

lemma rebuildSubitems?_bare (es : Fields) :
    rebuildSubitems? (Value.bareEntries es) = rebuildSubitems? es := by
  cases es with
  | nil => rfl
  | cons e es =>
    obtain ⟨k, v⟩ := e
    rw [Value.bareEntries, rebuildSubitems?, rebuildSubitems?, rebuildList?_bare,
      rebuildSubitems?_bare]

lemma rebuildList?_bare (v : Value) : rebuildList? v.bare = rebuildList? v := by
  cases v with
  | list xs => exact rebuildAll?_bare xs
  | _ => rfl

lemma rebuildAll?_bare (xs : List Value) : rebuildAll? (Value.bareAll xs) = rebuildAll? xs := by
  cases xs with
  | nil => rfl
  | cons x xs => rw [Value.bareAll, rebuildAll?, rebuildAll?, rebuild?_bare, rebuildAll?_bare]

end

end Descriptor

/-! ### Describing without identities -/

namespace Tree

lemma extras_bare (i : Option Insets) (e : Option EdgeSpacing) (g : Option Spacing) :
    Descriptor.extras (i.map (·.bare)) (e.map (·.bare)) (g.map (·.bare)) =
      Descriptor.extras i e g := by
  have he : ∀ e : EdgeSpacing, Descriptor.ofEdges e.bare = Descriptor.ofEdges e := by
    rintro ⟨id, l, t, r, b⟩
    cases l <;> cases t <;> cases r <;> cases b <;> rfl
  cases e with
  | none => cases i <;> cases g <;> rfl
  | some e =>
    rw [Descriptor.extras, Option.map_some, Option.map_some, he]
    cases i <;> cases g <;> rfl

mutual

lemma entries_bare (t : Tree) : t.bare.entries = t.entries := by
  cases t with
  | slot s =>
    rw [bare, entries, entries]
    exact congrArg (_ :: _ :: ·) (extras_bare s.insets s.edges none)
  | group f ts =>
    rw [bare, entries, entries, descriptors_allBare]
    exact congrArg (_ :: _ :: _ :: _ :: ·) (extras_bare f.insets f.edges f.spacing)

lemma descriptors_allBare (ts : List Tree) : descriptors (allBare ts) = descriptors ts := by
  cases ts with
  | nil => rfl
  | cons t ts => rw [allBare, descriptors, descriptors, entries_bare, descriptors_allBare]

end

lemma descriptor_bare (t : Tree) : t.bare.descriptor = t.descriptor :=
  congrArg (Value.dict 0) t.entries_bare

end Tree

/-! ### Composing -/

section Composing

variable (ev : Evaluator) (engine engine' : Nat) (on on' : Option Bool)

/-- What the descriptor engine makes of a group is the descriptor of its unit form. -/
lemma bare_of_composed {ev : Evaluator} {engine : Nat} {on : Option Bool} {s : Session}
    (hs : s.Genuine s.composers.size engine) {f : Frame} {ts : List Tree} {v : Value}
    (hv : ((composeWith (EngineClass.descriptor.engine engine) on
      (f.toValue (Tree.toValues ts))).exec ev s).1 = .ok v) :
    v.bare = (Tree.group f (Tree.allUnits ts)).descriptor := by
  have h := agrees_descriptor ev engine on (c := .descriptor) rfl rfl hs f ts
  rw [hv] at h
  rcases hp : Tree.plan false f ts with e | p <;> rw [hp] at h <;> cases h
  rename_i h
  rw [h, Tree.descriptor_plan hp]

/-- The unit form of a group is read back from its descriptor. -/
lemma rebuild?_of_bare {f : Frame} {ts : List Tree} {v : Value}
    (h : v.bare = (Tree.group f (Tree.allUnits ts)).descriptor) :
    Descriptor.rebuild? v = some (Tree.group f (Tree.allUnits ts)).bare := by
  rw [← Descriptor.rebuild?_bare, h]
  exact Descriptor.rebuild?_descriptor _ (Tree.allSingle_allUnits ts)

/-- **Descriptors lose nothing but replicas**: what the descriptor engine makes of a group is read
back as the unit form of the group, in which each slot is written out as slots of single items. So
the descriptors of two groups are the same exactly if their unit forms are, and are equal exactly
if their unit forms are equal. -/
theorem compose_rebuild {s s' : Session} (hs : s.Genuine s.composers.size engine)
    (hs' : s'.Genuine s'.composers.size engine') (f f' : Frame) (ts ts' : List Tree) :
    let made := ((composeWith (EngineClass.descriptor.engine engine) on
      (f.toValue (Tree.toValues ts))).exec ev s).1
    let made' := ((composeWith (EngineClass.descriptor.engine engine') on'
      (f'.toValue (Tree.toValues ts'))).exec ev s').1
    let unit := Tree.group f (Tree.allUnits ts)
    let unit' := Tree.group f' (Tree.allUnits ts')
    ((Tree.group f ts).Fits → ∃ v, made = .ok v) ∧
      (∀ v, made = .ok v → Descriptor.rebuild? v = some unit.bare) ∧
      ∀ v v', made = .ok v → made' = .ok v' →
        (v.bare = v'.bare ↔ unit.bare = unit'.bare) ∧
        (v.equals v' = true ↔ unit.toValue.equals unit'.toValue = true) := by
  intro made made' unit unit'
  refine ⟨fun hfit => ?_, fun v hv => rebuild?_of_bare (bare_of_composed hs hv),
    fun v v' hv hv' => ?_⟩
  · -- there is room, so it is made
    have h := agrees_descriptor ev engine on (c := .descriptor) rfl rfl hs f ts
    obtain ⟨p, hp⟩ := Tree.exists_plan false f ts hfit
    rw [hp] at h
    change Agrees _ made _ at h
    generalize made = x at h ⊢
    cases h with
    | ok h => exact ⟨_, rfl⟩
  have hb : v.bare = unit.descriptor := bare_of_composed hs hv
  have hb' : v'.bare = unit'.descriptor := bare_of_composed hs' hv'
  refine ⟨⟨fun h => ?_, fun h => ?_⟩, ?_⟩
  · -- what is rebuilt of equal descriptors is equal
    have hr : Descriptor.rebuild? v = Descriptor.rebuild? v' := by
      rw [← Descriptor.rebuild?_bare v, h, Descriptor.rebuild?_bare]
    rw [rebuild?_of_bare hb, rebuild?_of_bare hb'] at hr
    exact Option.some.inj hr
  · -- equal units are described in the same way
    rw [hb, hb', ← Tree.descriptor_bare unit, h, Tree.descriptor_bare]
  · -- the same of values that compare as equal
    have hsame : v.same v' = true ↔ unit.toValue.same unit'.toValue = true := by
      rw [← Value.same_bare, hb, hb']
      exact Descriptor.same_descriptor _ _ (Tree.allSingle_allUnits ts)
        (Tree.allSingle_allUnits ts')
    obtain ⟨id, es, rfl⟩ := Value.eq_dict_of_bare hb
    exact hsame

/-- A row with one slot for two items is described as the row with two slots for one item each is,
and its insets, which are there and zero, are read back. -/
theorem compose_rebuild_row :
    let z : LayoutSize := ⟨1, ⟨2, .absolute, .zero⟩, ⟨3, .estimated, .zero⟩⟩
    let row : Frame := ⟨4, z, none, none, .horizontal, some ⟨5, .flexible, .zero⟩⟩
    let slot (id n : Nat) (h : 0 < n) : Tree := .slot ⟨id, z, some (.none 6), none, n, h⟩
    let made (ts : List Tree) := ((composeWith (EngineClass.descriptor.engine 0) none
      (row.toValue (Tree.toValues ts))).exec .none (.initial [] false)).1
    ∃ v v', made [slot 7 2 (by decide)] = .ok v ∧
      made [slot 8 1 (by decide), slot 9 1 (by decide)] = .ok v' ∧
      Descriptor.rebuild? v = some (.group row.bare
        [(slot 0 1 (by decide)).bare, (slot 0 1 (by decide)).bare]) ∧
      v.bare = v'.bare ∧ v.equals v' = true := by
  intro z row slot made
  have hs : (Session.initial [] false).Genuine 0 0 := Session.genuine_initial ..
  obtain ⟨hfit, hread, heq⟩ := compose_rebuild .none 0 0 none none hs hs row row
    [slot 7 2 (by decide)] [slot 8 1 (by decide), slot 9 1 (by decide)]
  obtain ⟨hfit', -, -⟩ := compose_rebuild .none 0 0 none none hs hs row row
    [slot 8 1 (by decide), slot 9 1 (by decide)] []
  obtain ⟨v, hv⟩ := hfit (by simp [Tree.Fits, Tree.AllFit, memoryLimit, slot])
  obtain ⟨v', hv'⟩ := hfit' (by simp [Tree.Fits, Tree.AllFit, memoryLimit, slot])
  obtain ⟨hbare, hequals⟩ := heq v v' hv hv'
  exact ⟨v, v', hv, hv', hread v hv, hbare.2 rfl, hequals.2 rfl⟩

end Composing

end LayoutTree
