import LayoutTree.Validation.Reading

/-!
Reading values as layout values, nodes and host objects.

A layout value is taken as it is; a dict is read field by field, and fields it does not know are
ignored. Where nodes of several types may stand, a dict is read as each of them and the reading
with the most fields given counts. Some types hold others of their own kind; while a dict is read
as one of these, it is not read so again inside itself.
-/

namespace LayoutTree

/-! ### Dicts in one another

A type may hold others of its own kind, so a dict may stand inside itself. It is not read there
once more as the same type, and dicts are read in one another only so deep. -/

/-- The dicts that are being read, each with the type it is read as, the innermost first. -/
abbrev Nesting := List (Nat × String)

namespace Nesting

def limit : Nat := 254

/-- Begins to read a dict as a type, unless that is being done already. -/
def enter? (outer : Nesting) (type : String) (id : Nat) : Option Nesting :=
  if outer.contains (id, type) || limit ≤ outer.length then none else some ((id, type) :: outer)

theorem enter?_eq_some_iff {outer inner : Nesting} {type : String} {id : Nat} :
    outer.enter? type id = some inner ↔
      (id, type) ∉ outer ∧ outer.length < limit ∧ inner = (id, type) :: outer := by
  simp only [enter?, List.contains_eq_mem, Bool.or_eq_true, decide_eq_true_eq]
  split <;> grind

end Nesting

open Reading

namespace Value

/-! ### Sizes, spacings and insets -/

/-- What stands in a field that may be null and is not given. -/
def nothing : Reading Value := pure .null

def dimensionOf (fs : Fields) : Reading Dimension :=
  Dimension.mk <$> made <*> required fs "mode" readDimensionMode <*> required fs "value" number

def readDimension : Value → Reading Dimension
  | .dimension d => pure d
  | .dict _ fs => dimensionOf fs
  | _ => refuse .notModel

def sizeOf (fs : Fields) : Reading LayoutSize :=
  LayoutSize.mk <$> made <*> required fs "width" readDimension
    <*> required fs "height" readDimension

def readSize : Value → Reading LayoutSize
  | .size s => pure s
  | .dict _ fs => sizeOf fs
  | _ => refuse .notModel

def spacingOf (fs : Fields) : Reading Spacing :=
  Spacing.mk <$> made <*> required fs "mode" readSpacingMode <*> required fs "value" number

def readSpacing : Value → Reading Value
  | .spacing s => pure (.spacing s)
  | .dict _ fs => .spacing <$> spacingOf fs
  | _ => refuse .notModel

def edgesOf (fs : Fields) : Reading Value :=
  .edges <$> made <*> withDefault fs "leading" nothing (orNull readSpacing)
    <*> withDefault fs "top" nothing (orNull readSpacing)
    <*> withDefault fs "trailing" nothing (orNull readSpacing)
    <*> withDefault fs "bottom" nothing (orNull readSpacing)

def readEdges : Value → Reading Value
  | .edges id l t r b => pure (.edges id l t r b)
  | .dict _ fs => edgesOf fs
  | _ => refuse .notModel

def insetsOf (fs : Fields) : Reading Insets :=
  Insets.mk <$> made <*> withDefault fs "top" (pure .zero) number
    <*> withDefault fs "leading" (pure .zero) number <*> withDefault fs "bottom" (pure .zero) number
    <*> withDefault fs "trailing" (pure .zero) number

def readInsets : Value → Reading Value
  | .insets i => pure (.insets i)
  | .dict _ fs => .insets <$> insetsOf fs
  | _ => refuse .notModel

/-! ### Nodes -/

def slotOf (fs : Fields) : Reading Value :=
  .slot <$> made <*> withDefault fs "kind" (pure (.text "slot")) (word "slot")
    <*> required fs "size" (fun v => .size <$> v.readSize)
    <*> withDefault fs "insets" nothing (orNull readInsets)
    <*> withDefault fs "edge_spacing" nothing (orNull readEdges)
    <*> withDefault fs "replica_count" (pure (.int 1)) count

def groupOf (fs : Fields) (children : Reading Value) : Reading Value :=
  .group <$> made <*> withDefault fs "kind" (pure (.text "group")) (word "group")
    <*> required fs "size" (fun v => .size <$> v.readSize)
    <*> withDefault fs "insets" nothing (orNull readInsets)
    <*> withDefault fs "edge_spacing" nothing (orNull readEdges)
    <*> withDefault fs "direction" (pure (.direction .horizontal))
      (fun v => .direction <$> v.readDirection)
    <*> withDefault fs "inter_item_spacing" nothing (orNull readSpacing)
    <*> children

def fragmentOf (fs : Fields) (items : Reading Value) : Reading Value :=
  .fragment <$> made <*> withDefault fs "kind" (pure (.text "fragment")) (word "fragment")
    <*> items

/-- What stands where elements are expected and has none: an iteration that failed at a place, or
something that is no sequence. -/
def noElements : Value → Reading (List Value)
  | .spent place => (refuse .broken).under (.index place)
  | _ => refuse .notSequence

/-- Reads a dict as a type that may hold others of its own kind. -/
def nested (outer : Nesting) (type : String) (id : Nat) (r : Nesting → Reading Value) :
    Reading Value :=
  (outer.enter? type id).elim (refuse .recursive) r

mutual

/-- The children of a group among its fields. -/
def childrenOf (outer : Nesting) : Fields → Reading Value
  | [] => pure (.tuple [])
  | (k, v) :: fs =>
    if k == "children" then (.tuple <$> children outer v).given "children"
    else childrenOf outer fs

def children (outer : Nesting) : Value → Reading (List Value)
  | .list xs => (childrenFrom outer 0 xs).atMost .converted
  | .tuple xs => childrenFrom outer 0 xs
  | v => noElements v

def childrenFrom (outer : Nesting) : Nat → List Value → Reading (List Value)
  | _, [] => pure []
  | i, x :: xs => List.cons <$> (child outer x).under (.index i) <*> childrenFrom outer (i + 1) xs

/-- A slot or a group. -/
def child (outer : Nesting) : Value → Reading Value
  | .slot id k s i e n => pure (.slot id k s i e n)
  | .group id k s i e d g cs => pure (.group id k s i e d g cs)
  | .dict id fs => choose [("Slot", slotOf fs),
      ("Group", nested outer "Group" id fun inner => groupOf fs (childrenOf inner fs))]
  | _ => choose [("Slot", refuse .notModel), ("Group", refuse .notModel)]

end

mutual

/-- The items of a fragment among its fields. -/
def itemsOf (outer : Nesting) : Fields → Reading Value
  | [] => pure (.tuple [])
  | (k, v) :: fs =>
    if k == "items" then (.tuple <$> items outer v).given "items" else itemsOf outer fs

def items (outer : Nesting) : Value → Reading (List Value)
  | .list xs => (itemsFrom outer 0 xs).atMost .converted
  | .tuple xs => itemsFrom outer 0 xs
  | v => noElements v

def itemsFrom (outer : Nesting) : Nat → List Value → Reading (List Value)
  | _, [] => pure []
  | i, x :: xs => List.cons <$> (node outer x).under (.index i) <*> itemsFrom outer (i + 1) xs

/-- A slot, a group or a fragment. -/
def node (outer : Nesting) : Value → Reading Value
  | .slot id k s i e n => pure (.slot id k s i e n)
  | .group id k s i e d g cs => pure (.group id k s i e d g cs)
  | .fragment id k xs => pure (.fragment id k xs)
  | .dict id fs => choose [("Slot", slotOf fs),
      ("Group", nested outer "Group" id fun inner => groupOf fs (childrenOf inner fs)),
      ("Fragment", nested outer "Fragment" id fun inner => fragmentOf fs (itemsOf inner fs))]
  | _ => choose [("Slot", refuse .notModel), ("Group", refuse .notModel),
      ("Fragment", refuse .notModel)]

end

/-! ### Host objects of the model engine -/

/-- Insets that are not given. -/
def noInsets : Reading Value := (fun id => .insets (.none id)) <$> identity

def hostItemOf (fs : Fields) : Reading Value :=
  (fun id _ s i e => .item id s i e) <$> made
    <*> withDefault fs "kind" (pure (.text "item")) (word "item")
    <*> required fs "layout_size" readSize
    <*> withDefault fs "content_insets" noInsets readInsets
    <*> withDefault fs "edge_spacing" nothing (orNull readEdges)

def hostGroupOf (fs : Fields) (subitems : Reading (List Value)) : Reading Value :=
  (fun id _ s d xs n i e g => .itemGroup id s d xs n i e g) <$> made
    <*> withDefault fs "kind" (pure (.text "group")) (word "group")
    <*> required fs "layout_size" readSize
    <*> required fs "direction" readDirection
    <*> subitems
    <*> withDefault fs "repeat_count" nothing (orNull whole)
    <*> withDefault fs "content_insets" noInsets readInsets
    <*> withDefault fs "edge_spacing" nothing (orNull readEdges)
    <*> withDefault fs "inter_item_spacing" nothing (orNull readSpacing)

mutual

/-- The subitems of a host group among its fields. -/
def subitemsOf (outer : Nesting) : Fields → Reading (List Value)
  | [] => (refuse .missing).under (.name "subitems")
  | (k, v) :: fs =>
    if k == "subitems" then (subitems outer v).given "subitems" else subitemsOf outer fs

def subitems (outer : Nesting) : Value → Reading (List Value)
  | .list xs => (subitemsFrom outer 0 xs).atMost .converted
  | .tuple xs => subitemsFrom outer 0 xs
  | v => noElements v

def subitemsFrom (outer : Nesting) : Nat → List Value → Reading (List Value)
  | _, [] => pure []
  | i, x :: xs =>
    List.cons <$> (subitem outer x).under (.index i) <*> subitemsFrom outer (i + 1) xs

/-- An item or a group of the model engine. -/
def subitem (outer : Nesting) : Value → Reading Value
  | .item id s i e => pure (.item id s i e)
  | .itemGroup id s d xs n i e g => pure (.itemGroup id s d xs n i e g)
  | .dict id fs => choose [("Item", hostItemOf fs),
      ("ItemGroup", nested outer "ItemGroup" id fun inner => hostGroupOf fs (subitemsOf inner fs))]
  | _ => choose [("Item", refuse .notModel), ("ItemGroup", refuse .notModel)]

end

def readHostGroup : Value → Reading Value
  | .itemGroup id s d xs n i e g => pure (.itemGroup id s d xs n i e g)
  | .dict id fs => nested [] "ItemGroup" id fun inner => hostGroupOf fs (subitemsOf inner fs)
  | _ => refuse .notModel

def hostSectionOf (fs : Fields) : Reading Value :=
  .hostSection <$> made <*> required fs "group" readHostGroup
    <*> withDefault fs "content_insets" noInsets readInsets
    <*> withDefault fs "inter_group_spacing" (pure .zero) number

def readHostSection : Value → Reading Value
  | .hostSection id g i x => pure (.hostSection id g i x)
  | .dict _ fs => hostSectionOf fs
  | _ => refuse .notModel

def sectionsFrom : Nat → List Value → Reading (List Value)
  | _, [] => pure []
  | i, x :: xs => List.cons <$> (readHostSection x).under (.index i) <*> sectionsFrom (i + 1) xs

/-- A sequence of sections. Elements that are no sections are refused without a type name, for
only one type may stand there. -/
def readSections : Value → Reading (List Value)
  | .list xs => (sectionsFrom 0 xs).atMost .converted
  | .tuple xs => sectionsFrom 0 xs
  | v => noElements v

def hostLayoutOf (fs : Fields) : Reading Value :=
  .hostLayout <$> made <*> required fs "sections" readSections

/-- The layout value of a class read from the fields of a dict, if the class is known. -/
def ofFields? (type : String) (id : Nat) (fs : Fields) : Option (Reading Value) :=
  match type with
  | "Dimension" => some (.dimension <$> dimensionOf fs)
  | "LayoutSize" => some (.size <$> sizeOf fs)
  | "Spacing" => some (.spacing <$> spacingOf fs)
  | "EdgeSpacing" => some (edgesOf fs)
  | "Insets" => some (.insets <$> insetsOf fs)
  | "Slot" => some (slotOf fs)
  | "Group" => some (nested [] type id fun inner => groupOf fs (childrenOf inner fs))
  | "Fragment" => some (nested [] type id fun inner => fragmentOf fs (itemsOf inner fs))
  | "Item" => some (hostItemOf fs)
  | "ItemGroup" => some (nested [] type id fun inner => hostGroupOf fs (subitemsOf inner fs))
  | "Section" => some (hostSectionOf fs)
  | "CompositionalLayout" => some (hostLayoutOf fs)
  | _ => none

end Value

end LayoutTree
