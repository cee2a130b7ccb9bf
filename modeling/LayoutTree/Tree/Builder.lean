import LayoutTree.Host.Model
import LayoutTree.Tree.Block

/-!
Making builders, and configuring them.

A size and insets are validated at once; edges and space are kept as they are given. The block of
a group builder is called once, while the builder is made.
-/

namespace LayoutTree

namespace Builder

open Run

/-- The direction that a value denotes. -/
def direction (v : Value) : Run Direction := do
  match v.text?.bind Direction.ofText? with
  | some d => pure d
  | none => throw (.notMember (← written v) "Direction")

def size (width height : Value) : Run Value :=
  construct "LayoutSize" [("width", width), ("height", height)]

/-- The same inset at all four edges. -/
def uniformInsets (space : Value) : Run Value :=
  construct "Insets" [("top", space), ("leading", space), ("bottom", space), ("trailing", space)]

/-! ### Making builders -/

def newItem (width height columns : Value) : Run Value := do
  newBox ⟨← size width height, .null, .null, .item columns⟩

/-- Makes a group builder with the slots and groups that its block gives. -/
def newGroup (width height block direction : Value) : Run Value := do
  let size ← size width height
  let direction ← Builder.direction direction
  let children ← Node.flatten (← Block.node block)
  log "layoutbox.builder" .debug (direction.text ++ " group block produced "
    ++ toString children.length ++ " children")
  newBox ⟨size, .null, .null, .group (.direction direction) .null (.tuple children)⟩

/-! ### Configuring them -/

def setSize (id : Nat) (width height : Value) : Run Unit := do
  let size ← size width height
  setBox id { ← box id with size }

/-- How insets are given: a space for all edges, insets or a number for all edges, or the four
edges one by one. -/
structure InsetsArgument where
  insets : Value
  edges : Fields
  space : Value

def InsetsArgument.read (a : InsetsArgument) : Run Value :=
  if !a.space.isNull then uniformInsets a.space
  else
    match a.insets with
    | .insets i => pure (.insets i)
    | .null => construct "Insets" a.edges
    | v => uniformInsets v

def setInsets (id : Nat) (a : InsetsArgument) : Run Unit := do
  let insets ← a.read
  setBox id { ← box id with insets }

def setEdges (id : Nat) (edges : Value) : Run Unit := do
  setBox id { ← box id with edges }

/-- Edge spacings with the edge of a name replaced. -/
def withEdge (edges edge spacing : Value) : Run Value := do
  match edge.unhashable? with
  | some type => throw (.unhashable type)
  | none =>
    match edge.text?.bind Edge.ofName? with
    | some e => Model.copyWith edges e.name spacing
    | none => throw (.unknownEdge (← shown edge))

/-- The edge spacings of a builder with one edge replaced; if there are none, empty ones. -/
def replacedEdge (edges edge spacing : Value) : Run Value := do
  let edges ← if edges.isTruthy then pure edges else construct "EdgeSpacing" []
  match ← field edges "with_edge" with
  | .method edges "with_edge" => withEdge edges edge spacing
  | f => call f ⟨[edge, spacing], []⟩

/-- Replaces one edge of the edge spacings of a builder. -/
def setEdge (id : Nat) (edge spacing : Value) : Run Unit := do
  let edges ← replacedEdge (← box id).edges edge spacing
  setBox id { ← box id with edges }

/-- Sets the space between the children of a group builder. -/
def setSpace (id : Nat) (space : Value) : Run Unit := do
  let b ← box id
  match b.content with
  | .group direction _ children => setBox id { b with content := .group direction space children }
  | .item _ => throw (.noField "ItemBox" "space")

end Builder

end LayoutTree
