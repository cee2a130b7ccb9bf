import LayoutTree.Number.Double
import LayoutTree.Text.Basic

/-!
Sizes along one axis, the size of a box, and the axis along which boxes are laid out.

Every size is a thing of its own, to which a script may attach attributes, and is told from its
equals by its `id`. Equality disregards it.
-/

namespace LayoutTree

/-- How the value of a dimension is meant: a share of the parent's width or height, an exact
length, or a length that may be refined after measuring. -/
inductive DimensionMode where
  | fractionalWidth
  | fractionalHeight
  | absolute
  | estimated
deriving DecidableEq, Repr

namespace DimensionMode

def all : List DimensionMode := [.fractionalWidth, .fractionalHeight, .absolute, .estimated]

def text : DimensionMode → String
  | .fractionalWidth => "fractional_width"
  | .fractionalHeight => "fractional_height"
  | .absolute => "absolute"
  | .estimated => "estimated"

def name : DimensionMode → String
  | .fractionalWidth => "FRACTIONAL_WIDTH"
  | .fractionalHeight => "FRACTIONAL_HEIGHT"
  | .absolute => "ABSOLUTE"
  | .estimated => "ESTIMATED"

def ofText? (t : Text) : Option DimensionMode := all.find? (·.text == t)

@[simp] theorem ofText?_text (m : DimensionMode) : ofText? m.text = some m := by
  cases m <;> decide

end DimensionMode

structure Dimension where
  id : Nat
  mode : DimensionMode
  value : Double
deriving DecidableEq, Repr

/-- Equality of dimensions, numbers by value. -/
def Dimension.same (a b : Dimension) : Bool := decide (a.mode = b.mode) && a.value.same b.value

@[simp] theorem Dimension.same_self (d : Dimension) : d.same d = true := by simp [same]

structure LayoutSize where
  id : Nat
  width : Dimension
  height : Dimension
deriving DecidableEq, Repr

def LayoutSize.same (a b : LayoutSize) : Bool := a.width.same b.width && a.height.same b.height

@[simp] theorem LayoutSize.same_self (s : LayoutSize) : s.same s = true := by simp [same]

/-! ### Directions -/

/-- The axis along which a group lays out its children. -/
inductive Direction where
  | horizontal
  | vertical
deriving DecidableEq, Repr

namespace Direction

def all : List Direction := [.horizontal, .vertical]

def text : Direction → String
  | .horizontal => "horizontal"
  | .vertical => "vertical"

def name : Direction → String
  | .horizontal => "HORIZONTAL"
  | .vertical => "VERTICAL"

def ofText? (t : Text) : Option Direction := all.find? (·.text == t)

@[simp] theorem ofText?_text (d : Direction) : ofText? d.text = some d := by cases d <;> decide

end Direction

end LayoutTree
