import LayoutTree.Script.Method

/-!
The functions that make layout values, nodes, blocks and builders.
-/

namespace LayoutTree

/-- A function that scripts can call. -/
abbrev Function := Arguments → Run Value

namespace Function

open Run

/-! ### Sizes and spacings -/

def dimension (mode : DimensionMode) : Function := fun a => do Run.dimension mode (← a.single)

def spacing (mode : SpacingMode) : Function := fun a => do Run.spacing mode (← a.single)

def sizes : List (String × Function) := [
  ("w", dimension .fractionalWidth),
  ("h", dimension .fractionalHeight),
  ("fractional_width", dimension .fractionalWidth),
  ("fractional_height", dimension .fractionalHeight),
  ("absolute", dimension .absolute),
  ("estimated", dimension .estimated),
  ("fixed", spacing .fixed),
  ("flexible", spacing .flexible),
  ("Dimension.fractional_width", dimension .fractionalWidth),
  ("Dimension.fractional_height", dimension .fractionalHeight),
  ("Dimension.absolute", dimension .absolute),
  ("Dimension.estimated", dimension .estimated),
  ("Spacing.fixed", spacing .fixed),
  ("Spacing.flexible", spacing .flexible),
  ("Insets.uniform", fun a => do Builder.uniformInsets (← a.single))]

/-! ### Choices -/

/-- The member of a choice that a value denotes. -/
def memberOf (type : String) (ofText? : Text → Option Value) : Function := fun a => do
  let v ← a.single
  match v.text?.bind ofText? with
  | some m => pure m
  | none => throw (.notMember (← written v) type)

def choices : List (String × Function) := [
  ("Direction", memberOf "Direction" fun t => .direction <$> Direction.ofText? t),
  ("DimensionMode", memberOf "DimensionMode" fun t => .dimensionMode <$> DimensionMode.ofText? t),
  ("SpacingMode", memberOf "SpacingMode" fun t => .spacingMode <$> SpacingMode.ofText? t)]

/-! ### Layout values by their fields -/

def validated (type : String) : String × Function := (type, fun a => construct type a.named)

def models : List (String × Function) :=
  ["Dimension", "LayoutSize", "Spacing", "EdgeSpacing", "Insets", "Slot", "Group", "Fragment",
    "Item", "ItemGroup", "Section", "CompositionalLayout"].map validated ++ [
  ("Slot.model_construct", unvalidatedSlot),
  ("Group.model_construct", unvalidatedGroup),
  ("Fragment.model_construct", unvalidatedFragment)]

/-! ### Nodes and blocks -/

def combineAll : Function := fun a => Block.combine a.positional

def convert : Function := fun a => do Block.component (← a.single)

def convertOptional : Function := fun a => do Block.optional (← a.single)

def convertArray : Function := fun a => do Block.fromArray (← a.single)

def blocks : List (String × Function) := [
  ("flatten", fun a => do return .list (← Node.flatten (← a.single))),
  ("combine", combineAll),
  ("choose_first", convert),
  ("choose_second", convert),
  ("optional", convertOptional),
  ("from_array", convertArray),
  ("component", convert),
  ("evaluate", fun a => do Block.node (← a.single)),
  ("LayoutBuilder.build_block", combineAll),
  ("LayoutBuilder.build_either_first", convert),
  ("LayoutBuilder.build_either_second", convert),
  ("LayoutBuilder.build_optional", convertOptional),
  ("LayoutBuilder.build_array", convertArray),
  ("LayoutBuilder.component", convert),
  ("LayoutBuilder.evaluate", fun a => do Block.node (← a.single))]

/-! ### Builders -/

def groupBox (direction : Value) : Function := fun a => do
  Builder.newGroup (← a.required 0 "width") (← a.required 1 "height") (← a.required 2 "block")
    direction

def builders : List (String × Function) := [
  ("ItemBox", fun a => do
    Builder.newItem (← a.required 0 "width") (← a.required 1 "height")
      (a.optional 2 "columns" (.int 1))),
  ("GroupBox", fun a => groupBox (a.namedOr "direction" (.direction .horizontal)) a),
  ("GroupBox.horizontal", groupBox (.direction .horizontal)),
  ("GroupBox.vertical", groupBox (.direction .vertical))]

def layout : List (String × Function) := sizes ++ choices ++ models ++ blocks ++ builders

end Function

end LayoutTree
