import LayoutTree.Session.Cursor
import LayoutTree.Value.Same

/-!
The descriptor engine: host objects are plain dicts. What it is given is taken apart field by
field, whatever its type.
-/

namespace LayoutTree

/-- The name of a mode in a descriptor. -/
def DimensionMode.label : DimensionMode → String
  | .fractionalWidth => "fractionalWidth"
  | .fractionalHeight => "fractionalHeight"
  | .absolute => "absolute"
  | .estimated => "estimated"

def SpacingMode.label : SpacingMode → String
  | .fixed => "fixed"
  | .flexible => "flexible"

namespace Descriptor

open Run

/-- The label of a mode, which is looked up by its text. -/
def modeLabel (label? : Text → Option String) (mode : Value) : Run Value := do
  match mode.unhashable? with
  | some type => throw (.unhashable type)
  | none =>
    match mode.text?.bind label? with
    | some label => pure (.text label)
    | none => throw (.missingKey (← shown mode))

def dimensionLabel? (text : Text) : Option String := (DimensionMode.ofText? text).map (·.label)

def spacingLabel? (text : Text) : Option String := (SpacingMode.ofText? text).map (·.label)

/-- The kind and the value of a dimension or a spacing. -/
def measure (label? : Text → Option String) (v : Value) : Run Value := do
  let kind ← modeLabel label? (← field v "mode")
  newDict [("kind", kind), ("value", ← field v "value")]

def size (v : Value) : Run Value := do
  let width ← measure dimensionLabel? (← field v "width")
  let height ← measure dimensionLabel? (← field v "height")
  newDict [("widthDimension", width), ("heightDimension", height)]

def spacing (v : Value) : Run Value :=
  if v.isNull then pure .null else measure spacingLabel? v

def insets (v : Value) : Run Value := do
  newDict [("top", ← field v "top"), ("leading", ← field v "leading"),
    ("bottom", ← field v "bottom"), ("trailing", ← field v "trailing")]

def edges (v : Value) : Run Value := do
  let leading ← spacing (← field v "leading")
  let top ← spacing (← field v "top")
  let trailing ← spacing (← field v "trailing")
  let bottom ← spacing (← field v "bottom")
  newDict [("leading", leading), ("top", top), ("trailing", trailing), ("bottom", bottom)]

/-- A descriptor with one more entry, which is described only if the rest is a descriptor. -/
def extended (obj : Value) (key : Text) (describe : Run Value) : Run Value :=
  match obj with
  | .dict _ fs => do newDict (Fields.put key (← describe) fs)
  | v => throw (.notMapping v.typeName)

def makeItem (sz : Value) : Run Value := do
  newDict [("type", .text "item"), ("layoutSize", ← size sz)]

def makeGroup (direction sz subitems : Value) : Run Value := do
  let direction ← field direction "value"
  let sz ← size sz
  let xs ← elements subitems
  newDict [("type", .text "group"), ("direction", direction), ("layoutSize", sz),
    ("subitems", .list xs)]

def makeSection (group ins gap : Value) : Run Value := do
  let head : Fields := [("type", .text "section"), ("group", group)]
  let insetsEntry : Fields ←
    if ins.isNull then pure [] else (fun i => [("contentInsets", i)]) <$> insets ins
  let spacingEntry : Fields := if gap.isNull then [] else [("interGroupSpacing", gap)]
  newDict (head ++ insetsEntry ++ spacingEntry)

def makeLayout (sections : Value) : Run Value := do
  newDict [("type", .text "layout"), ("sections", .list (← elements sections))]

end Descriptor

end LayoutTree
