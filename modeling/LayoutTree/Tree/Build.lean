import LayoutTree.Validation.Construct

/-!
Building: the configuration of a builder becomes a validated node.
-/

namespace LayoutTree

namespace Box

/-- The fields of the node that a builder describes. -/
def nodeFields (b : Box) : Fields :=
  ("size", b.size) :: ("insets", b.insets) :: ("edge_spacing", b.edges) :: match b.content with
    | .item columns => [("replica_count", columns)]
    | .group direction space children => [("direction", direction),
      ("inter_item_spacing", space), ("children", children)]

def nodeType (b : Box) : String :=
  match b.content with
  | .item _ => "Slot"
  | .group .. => "Group"

end Box

namespace Builder

open Run

/-- Builds the node of a builder and leaves the builder as it is. -/
def build (id : Nat) : Run Value := do
  let b ← box id
  construct b.nodeType b.nodeFields

/-- What a builder gives when it is asked to build: its node, unless a script has put something
else in the place of the method. -/
def node (kind : BoxKind) (id : Nat) : Run Value :=
  callMethodOr (.box kind id) "build" .none (build id)

end Builder

end LayoutTree
