import LayoutTree.Session.Attribute
import LayoutTree.Validation.Construct

/-!
The model engine: host objects are validated when they are made. Configuring one makes a copy in
which a field is replaced without a check.
-/

namespace LayoutTree.Model

open Run

def makeItem (size : Value) : Run Value := construct "Item" [("layout_size", size)]

def makeGroup (direction size subitems : Value) : Run Value := do
  let xs ← elements subitems
  construct "ItemGroup" [("layout_size", size), ("direction", direction), ("subitems", .tuple xs)]

def makeRepeatedGroup (direction size item count : Value) : Run Value :=
  construct "ItemGroup" [("layout_size", size), ("direction", direction),
    ("subitems", .tuple [item]), ("repeat_count", count)]

/-! ### Copies -/

/-- A layout value with one of its fields replaced, if it has a field of that name that may hold
any value. -/
def replaceField? (v : Value) (name : Text) (x : Value) : Option Value :=
  match v, name with
  | .item id s _ e, .plain "content_insets" => some (.item id s x e)
  | .item id s i _, .plain "edge_spacing" => some (.item id s i x)
  | .itemGroup id s d xs n _ e g, .plain "content_insets" => some (.itemGroup id s d xs n x e g)
  | .itemGroup id s d xs n i _ g, .plain "edge_spacing" => some (.itemGroup id s d xs n i x g)
  | .itemGroup id s d xs n i e _, .plain "inter_item_spacing" =>
    some (.itemGroup id s d xs n i e x)
  | .itemGroup id s d xs _ i e g, .plain "repeat_count" => some (.itemGroup id s d xs x i e g)
  | .hostSection id _ i y, .plain "group" => some (.hostSection id x i y)
  | .hostSection id g _ y, .plain "content_insets" => some (.hostSection id g x y)
  | .slot id _ s i e n, .plain "kind" => some (.slot id x s i e n)
  | .slot id k _ i e n, .plain "size" => some (.slot id k x i e n)
  | .slot id k s _ e n, .plain "insets" => some (.slot id k s x e n)
  | .slot id k s i _ n, .plain "edge_spacing" => some (.slot id k s i x n)
  | .slot id k s i e _, .plain "replica_count" => some (.slot id k s i e x)
  | .group id _ s i e d g cs, .plain "kind" => some (.group id x s i e d g cs)
  | .group id k _ i e d g cs, .plain "size" => some (.group id k x i e d g cs)
  | .group id k s _ e d g cs, .plain "insets" => some (.group id k s x e d g cs)
  | .group id k s i _ d g cs, .plain "edge_spacing" => some (.group id k s i x d g cs)
  | .group id k s i e _ g cs, .plain "direction" => some (.group id k s i e x g cs)
  | .group id k s i e d _ cs, .plain "inter_item_spacing" => some (.group id k s i e d x cs)
  | .group id k s i e d g _, .plain "children" => some (.group id k s i e d g x)
  | .fragment id _ xs, .plain "kind" => some (.fragment id x xs)
  | .fragment id k _, .plain "items" => some (.fragment id k x)
  | .edges id _ t r b, .plain "leading" => some (.edges id x t r b)
  | .edges id l _ r b, .plain "top" => some (.edges id l x r b)
  | .edges id l t _ b, .plain "trailing" => some (.edges id l t x b)
  | .edges id l t r _, .plain "bottom" => some (.edges id l t r x)
  | _, _ => none

/-- A copy of a layout value with its attributes, under an identity of its own. -/
def copy (v : Value) : Run Value := do
  let id ← fresh
  match v.identity?.map (← get).attributesOf with
  | some (f :: fs) => modify fun s => s.setAttributes (.object id) (f :: fs)
  | _ => pure ()
  pure (v.withId id)

/-- A copy with a field replaced. What is no field of the type becomes an attribute. -/
def copyWith (v : Value) (name : Text) (x : Value) : Run Value := do
  let v ← copy v
  match replaceField? v name x with
  | some w => pure w
  | none => do
    match v.identity? with
    | some i => attach i name x
    | none => pure ()
    pure v

/-- A copy with the fields of a dict replaced. -/
def copyWithAll (v : Value) : Fields → Run Value
  | [] => copy v
  | [(name, x)] => copyWith v name x
  | (name, x) :: fs => do copyWithAll (← copyWith v name x) fs

/-- A copy of what can be copied with a field replaced. -/
def configured (v : Value) (name : String) (x : Value) : Run Value := do
  match ← field v "model_copy" with
  | .method v "model_copy" => copyWith v name x
  | f => do call f ⟨[], [("update", ← newDict [(name, x)])]⟩

/-! ### Sections and layouts -/

def makeSection (group insets spacing : Value) : Run Value := do
  let insets ← if insets.isTruthy then pure insets else construct "Insets" []
  construct "Section" [("group", group), ("content_insets", insets),
    ("inter_group_spacing", if spacing.isTruthy then spacing else .float .zero)]

def makeLayout (sections : Value) : Run Value := do
  construct "CompositionalLayout" [("sections", .tuple (← elements sections))]

end LayoutTree.Model
