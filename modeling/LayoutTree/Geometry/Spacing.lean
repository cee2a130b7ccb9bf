import LayoutTree.Number.Double
import LayoutTree.Text.Basic

/-!
Gaps between boxes and insets inside them. As with sizes, equality disregards the `id` that tells
each of them from its equals.
-/

namespace LayoutTree

/-- A fixed gap is exact, a flexible one is a minimum. -/
inductive SpacingMode where
  | fixed
  | flexible
deriving DecidableEq, Repr

namespace SpacingMode

def all : List SpacingMode := [.fixed, .flexible]

def text : SpacingMode → String
  | .fixed => "fixed"
  | .flexible => "flexible"

def name : SpacingMode → String
  | .fixed => "FIXED"
  | .flexible => "FLEXIBLE"

def ofText? (t : Text) : Option SpacingMode := all.find? (·.text == t)

@[simp] theorem ofText?_text (m : SpacingMode) : ofText? m.text = some m := by
  cases m <;> decide

end SpacingMode

structure Spacing where
  id : Nat
  mode : SpacingMode
  value : Double
deriving DecidableEq, Repr

def Spacing.same (a b : Spacing) : Bool := decide (a.mode = b.mode) && a.value.same b.value

@[simp] theorem Spacing.same_self (s : Spacing) : s.same s = true := by simp [same]

structure Insets where
  id : Nat
  top : Double
  leading : Double
  bottom : Double
  trailing : Double
deriving DecidableEq, Repr

namespace Insets

/-- No inset at any edge. -/
def none (id : Nat) : Insets := ⟨id, .zero, .zero, .zero, .zero⟩

def same (a b : Insets) : Bool :=
  a.top.same b.top && a.leading.same b.leading && a.bottom.same b.bottom
    && a.trailing.same b.trailing

@[simp] theorem same_self (i : Insets) : i.same i = true := by simp [same]

end Insets

/-- One of the four edges of a box. -/
inductive Edge where
  | leading
  | top
  | trailing
  | bottom
deriving DecidableEq, Repr

namespace Edge

def all : List Edge := [.leading, .top, .trailing, .bottom]

def name : Edge → String
  | .leading => "leading"
  | .top => "top"
  | .trailing => "trailing"
  | .bottom => "bottom"

def ofName? (t : Text) : Option Edge := all.find? (·.name == t)

@[simp] theorem ofName?_name (e : Edge) : ofName? e.name = some e := by cases e <;> decide

end Edge

end LayoutTree
