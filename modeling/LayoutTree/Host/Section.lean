import LayoutTree.Host.Compose
import LayoutTree.Tree.Build

/-!
Sections, which wrap one composed group, and layouts, which wrap sections.
-/

namespace LayoutTree.Layout

open Run

/-- The node of a group builder; anything else stands for itself. -/
def groupNode : Value → Run Value
  | .box .group id => Builder.node .group id
  | v => pure v

/-- Composes a group and wraps it in a section of the engine. -/
def makeSection (group engine config insets spacing : Value) : Run Value := do
  let c ← Composer.make engine config
  let node ← groupNode group
  Run.operate (← composer c).engine "make_section" do
    return ⟨[← Composer.composeGroup c node],
      [("insets", insets), ("inter_group_spacing", spacing)]⟩

def isGroup : Value → Bool
  | .group .. => true
  | .box .group _ => true
  | _ => false

/-- The sections of a layout: groups become default sections of the composer's engine, anything
else is taken for a section. -/
def resolveSections (c : Nat) : List Value → Run (List Value)
  | [] => pure []
  | x :: xs => do
    let s ← if isGroup x then do
        let composer ← composer c
        makeSection x composer.engine composer.config .null .null
      else pure x
    return s :: (← resolveSections c xs)

/-- Wraps sections in a layout of the engine. -/
def make (sections : List Value) (engine config : Value) : Run Value := do
  if sections.isEmpty then throw .noSections
  let c ← Composer.make engine config
  let resolved ← resolveSections c sections
  Run.operate (← composer c).engine "make_layout" do return ⟨[.list resolved], []⟩

end LayoutTree.Layout
