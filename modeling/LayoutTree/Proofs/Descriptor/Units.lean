import LayoutTree.Proofs.Descriptor.Encoding
import LayoutTree.Proofs.Double

/-!
The unit form of a tree, in which every slot stands for one item, and the descriptor of a tree. A
plan without repetition is described by what describes the unit form of its tree.
-/

namespace LayoutTree

/-! ### Unit forms -/

/-- The slot for one of its items. -/
def Slot.single (s : Slot) : Slot := { s with count := 1, count_pos := Nat.one_pos }

namespace Tree

mutual

/-- Every slot is written out as the slots of its single items, side by side. -/
def units : Tree → List Tree
  | slot s => List.replicate s.count (slot s.single)
  | group f ts => [group f (allUnits ts)]

def allUnits : List Tree → List Tree
  | [] => []
  | t :: ts => t.units ++ allUnits ts

end

mutual

/-- Every slot stands for one item. -/
def Single : Tree → Prop
  | slot s => s.count = 1
  | group _ ts => AllSingle ts

def AllSingle : List Tree → Prop
  | [] => True
  | t :: ts => t.Single ∧ AllSingle ts

end

lemma AllSingle.append {ts us : List Tree} (ht : AllSingle ts) (hu : AllSingle us) :
    AllSingle (ts ++ us) := by
  induction ts with
  | nil => exact hu
  | cons t ts ih => exact ⟨ht.1, ih ht.2⟩

mutual

lemma allSingle_units (t : Tree) : AllSingle t.units := by
  cases t with
  | slot s =>
    rw [units]
    induction s.count with
    | zero => trivial
    | succ n ih => exact ⟨rfl, ih⟩
  | group f ts => exact ⟨allSingle_allUnits ts, trivial⟩

lemma allSingle_allUnits (ts : List Tree) : AllSingle (allUnits ts) := by
  cases ts with
  | nil => trivial
  | cons t ts => exact (allSingle_units t).append (allSingle_allUnits ts)

end

end Tree

/-! ### Descriptors -/

namespace Descriptor

/-- An entry that is left out if there is nothing to describe. -/
def entry (key : Text) : Option Value → Fields
  | none => []
  | some v => [(key, v)]

/-- The entries of what a box may have besides its size, each if it is set. -/
def extras (i : Option Insets) (e : Option EdgeSpacing) (g : Option Spacing) : Fields :=
  entry "contentInsets" (i.map ofInsets) ++ entry "edgeSpacing" (e.map ofEdges)
    ++ entry "interItemSpacing" (g.map ofSpacing)

lemma get?_extras (i : Option Insets) (e : Option EdgeSpacing) (g : Option Spacing) (k : Text) :
    (extras i e g).get? k = if k = "contentInsets" then i.map ofInsets
      else if k = "edgeSpacing" then e.map ofEdges
      else if k = "interItemSpacing" then g.map ofSpacing else none := by
  cases i <;> cases e <;> cases g <;>
    simp only [extras, entry, Option.map_none, Option.map_some, List.nil_append, List.append_nil,
      List.cons_append, Fields.get?_cons, Fields.get?_nil] <;>
    split_ifs <;> first | rfl | simp_all

lemma keys_entry (key : Text) (o : Option Value) : (entry key o).keys.Sublist [key] := by
  cases o with
  | none => exact List.nil_sublist _
  | some v => exact List.Sublist.refl _

lemma keys_extras (i : Option Insets) (e : Option EdgeSpacing) (g : Option Spacing) :
    (extras i e g).keys.Sublist ["contentInsets", "edgeSpacing", "interItemSpacing"] := by
  rw [extras, Fields.keys, List.map_append, List.map_append]
  exact ((keys_entry _ _).append (keys_entry _ _)).append (keys_entry _ _)

/-- The keys of a box, in the order in which they are written. -/
def boxKeys : List Text := ["type", "direction", "layoutSize", "subitems", "contentInsets",
  "edgeSpacing", "interItemSpacing"]

lemma nodup_boxKeys : boxKeys.Nodup := by decide

/-- The entries of a group that holds these subitems. -/
def groupEntries (f : Frame) (subitems : List Value) : Fields :=
  ("type", .text "group") :: ("direction", .text f.direction.text)
    :: ("layoutSize", ofSize f.size) :: ("subitems", .list subitems)
    :: extras f.insets f.edges f.spacing

lemma keys_groupEntries (f : Frame) (subitems : List Value) :
    (groupEntries f subitems).keys.Sublist boxKeys :=
  (List.Sublist.refl (["type", "direction", "layoutSize", "subitems"] : List Text)).append
    (keys_extras f.insets f.edges f.spacing)

end Descriptor

open Descriptor

namespace Tree

mutual

/-- The entries of the dict that describes a tree whose slots stand for one item each. -/
def entries : Tree → Fields
  | slot s => ("type", .text "item") :: ("layoutSize", ofSize s.size)
      :: extras s.insets s.edges none
  | group f ts => groupEntries f (descriptors ts)

def descriptors : List Tree → List Value
  | [] => []
  | t :: ts => .dict 0 t.entries :: descriptors ts

end

def descriptor (t : Tree) : Value := .dict 0 t.entries

lemma keys_entries (t : Tree) : t.entries.keys.Sublist boxKeys := by
  cases t with
  | slot s =>
    have h : (["type", "layoutSize"] : List Text).Sublist
        ["type", "direction", "layoutSize", "subitems"] := by decide
    exact h.append (keys_extras s.insets s.edges none)
  | group f ts => exact keys_groupEntries f _

lemma descriptors_append (ts us : List Tree) :
    descriptors (ts ++ us) = descriptors ts ++ descriptors us := by
  induction ts with
  | nil => rfl
  | cons t ts ih =>
    rw [List.cons_append, descriptors, descriptors, ih]
    rfl

lemma descriptors_replicate (t : Tree) (n : Nat) :
    descriptors (List.replicate n t) = List.replicate n t.descriptor := by
  induction n with
  | zero => rfl
  | succ n ih =>
    rw [List.replicate_succ, descriptors, ih]
    rfl

end Tree

lemma Slot.entries_leaf (s : Slot) : s.leaf.entries = (Tree.slot s).entries := by
  obtain ⟨id, z, i, e, n, h⟩ := s
  cases i <;> cases e <;> rfl

lemma Frame.entries_plan (f : Frame) {ps : List Plan} {ts : List Tree}
    (h : Plan.descriptors ps = Tree.descriptors ts) :
    (f.plan (f.core none ps)).entries = (Tree.group f ts).entries := by
  obtain ⟨id, z, i, e, d, g⟩ := f
  rw [Tree.entries, ← h]
  cases i <;> cases e <;> cases g <;> rfl

namespace Tree

mutual

/-- Without repetition the subitems of a tree are described as its unit forms are. -/
lemma descriptors_subitems (t : Tree) {ps : List Plan} (h : t.subitems false = .ok ps) :
    Plan.descriptors ps = descriptors t.units := by
  cases t with
  | slot s =>
    have hleaf : s.leaf.descriptor = (slot s.single).descriptor :=
      congrArg (Value.dict 0) s.single.entries_leaf
    rw [Slot.items_eq h, units, descriptors_replicate, Plan.descriptors_eq_map, List.map_replicate,
      hleaf]
  | group f ts =>
    rw [subitems] at h
    rcases hp : groupPlan false f ts (allSubitems false 0 ts) with e | p <;> rw [hp] at h
    · cases h
    · cases h
      rw [Plan.descriptors, entries_plan f ts hp]
      rfl

lemma entries_plan (f : Frame) (ts : List Tree) {p : Plan} (h : plan false f ts = .ok p) :
    p.entries = (group f (allUnits ts)).entries := by
  rw [plan, groupPlan] at h
  split at h
  · cases h
  rcases hx : allSubitems false 0 ts with e | ps <;> rw [hx] at h
  · cases h
  · cases h
    exact f.entries_plan (descriptors_allSubitems ts hx)

lemma descriptors_allSubitems (ts : List Tree) {held : Nat} {ps : List Plan}
    (h : allSubitems false held ts = .ok ps) :
    Plan.descriptors ps = descriptors (allUnits ts) := by
  cases ts with
  | nil =>
    cases h
    rfl
  | cons t ts =>
    obtain ⟨xs, ys, hx, -, hy, rfl⟩ := appended_eq_ok_iff.1 h
    rw [Plan.descriptors_eq_map, List.map_append, ← Plan.descriptors_eq_map,
      ← Plan.descriptors_eq_map, descriptors_subitems t hx, descriptors_allSubitems ts hy, allUnits,
      descriptors_append]

end

/-- A plan without repetition is described as the unit form of its tree is. -/
lemma descriptor_plan {f : Frame} {ts : List Tree} {p : Plan} (h : plan false f ts = .ok p) :
    p.descriptor = (group f (allUnits ts)).descriptor :=
  congrArg (Value.dict 0) (entries_plan f ts h)

end Tree

end LayoutTree
