import LayoutTree.Host.Section
import LayoutTree.Tree.Builder

/-!
The methods that scripts call: of layout values, builders, composers and engines.
-/

namespace LayoutTree.Run

/-! ### Builders -/

/-- The four edges among the named arguments, each zero unless it is given. -/
def insetsArgument (a : Arguments) : Builder.InsetsArgument :=
  let edge (name : String) : Text × Value := (name, a.namedOr name (.float .zero))
  { insets := a.orNull 0 "insets"
    edges := [edge "top", edge "leading", edge "bottom", edge "trailing"]
    space := a.namedOr "space" .null }

/-- Composes what a builder builds: a list of items, or a group. -/
def composeBox (kind : BoxKind) (id : Nat) (engine config : Value) : Run Value := do
  let c ← Composer.make engine config
  let node ← Builder.node kind id
  match kind with
  | .item => return .list (← Composer.composeSlot c node)
  | .group => Composer.composeGroup c node

/-- Replaces one edge of a builder through its method for that. -/
def setEdge (kind : BoxKind) (id : Nat) (edge spacing : Value) : Run Value :=
  callMethodOr (.box kind id) "_set_edge" ⟨[edge, spacing], []⟩ do
    Builder.setEdge id edge spacing
    pure (.box kind id)

/-- A method of a builder. Those that configure it answer the builder itself. -/
def boxMethod (kind : BoxKind) (id : Nat) (method : String) (a : Arguments) : Run Value := do
  let self := Value.box kind id
  match method with
  | "size" =>
    Builder.setSize id (← a.required 0 "width") (← a.required 1 "height")
    pure self
  | "insets" =>
    Builder.setInsets id (insetsArgument a)
    pure self
  | "edges" =>
    Builder.setEdges id (← a.required 0 "edges")
    pure self
  | "space" =>
    Builder.setSpace id (← a.required 0 "spacing")
    pure self
  | "_set_edge" =>
    Builder.setEdge id (← a.required 0 "edge") (← a.required 1 "spacing")
    pure self
  | "build" => Builder.build id
  | "compose" => composeBox kind id (a.orNull 0 "engine") (a.orNull 1 "config")
  | "horizontal" | "vertical" =>
    Builder.newGroup (← a.required 0 "width") (← a.required 1 "height") (← a.required 2 "block")
      (.text method)
  | _ => setEdge kind id (.text method) (← a.required 0 "spacing")

/-! ### Layout values -/

/-- A dimension with a mode. -/
def dimension (mode : DimensionMode) (value : Value) : Run Value :=
  construct "Dimension" [("mode", .dimensionMode mode), ("value", value)]

def spacing (mode : SpacingMode) (value : Value) : Run Value :=
  construct "Spacing" [("mode", .spacingMode mode), ("value", value)]

/-! ### Nodes without validation -/

def unvalidatedSlot (a : Arguments) : Run Value := do
  return .slot (← fresh) (a.namedOr "kind" (.text "slot")) (a.namedOr "size" .absent)
    (a.namedOr "insets" .null) (a.namedOr "edge_spacing" .null)
    (a.namedOr "replica_count" (.int 1))

def unvalidatedGroup (a : Arguments) : Run Value := do
  return .group (← fresh) (a.namedOr "kind" (.text "group")) (a.namedOr "size" .absent)
    (a.namedOr "insets" .null) (a.namedOr "edge_spacing" .null)
    (a.namedOr "direction" (.direction .horizontal)) (a.namedOr "inter_item_spacing" .null)
    (a.namedOr "children" (.tuple []))

def unvalidatedFragment (a : Arguments) : Run Value := do
  return .fragment (← fresh) (a.namedOr "kind" (.text "fragment"))
    (a.namedOr "items" (.tuple []))

/-- A method of a layout value. -/
def recordMethod (self : Value) (method : String) (a : Arguments) : Run Value := do
  match self, method with
  | .dimension _, "fractional_width" => dimension .fractionalWidth (← a.single)
  | .dimension _, "fractional_height" => dimension .fractionalHeight (← a.single)
  | .dimension _, "absolute" => dimension .absolute (← a.single)
  | .dimension _, "estimated" => dimension .estimated (← a.single)
  | .spacing _, "fixed" => spacing .fixed (← a.single)
  | .spacing _, "flexible" => spacing .flexible (← a.single)
  | .insets _, "uniform" => Builder.uniformInsets (← a.single)
  | .slot .., "model_construct" => unvalidatedSlot a
  | .group .., "model_construct" => unvalidatedGroup a
  | .fragment .., "model_construct" => unvalidatedFragment a
  | .edges .., "with_edge" =>
    Builder.withEdge self (← a.required 0 "edge") (← a.required 1 "spacing")
  | _, "model_copy" =>
    match a.namedOr "update" .null with
    | .dict _ fs => Model.copyWithAll self fs
    | _ => Model.copy self
  | _, _ => throw .wrongArguments

/-! ### Composers -/

def composerMethod (id : Nat) (method : String) (a : Arguments) : Run Value := do
  match method with
  | "compose" => Composer.compose id (← a.required 0 "node")
  | "compose_slot" => return .list (← Composer.composeSlot id (← a.required 0 "slot"))
  | "compose_group" => Composer.composeGroup id (← a.required 0 "group")
  | "_apply_box_config" =>
    Composer.applyConfig id (← a.required 0 "obj") (← a.required 1 "node")
  | "_resolve_repeat_items" =>
    let c ← composer id
    Composer.resolveRepeats c.engine c.config
  | _ => throw .wrongArguments

/-! ### All of them -/

/-- Calls a method that a value is bound to. -/
def boundMethod (self : Value) (method : String) (a : Arguments) : Run Value := do
  match self with
  | .box kind id => boxMethod kind id method a
  | .composer id => composerMethod id method a
  | .engine _ kind label supports => EngineClass.operate ⟨kind, label, supports⟩ method a
  | .config _ => Composer.configFromSettings
  | self => recordMethod self method a

/-- Calls a value that may be a method. -/
def callValue (f : Value) (a : Arguments) : Run Value :=
  match f with
  | .method self method => boundMethod self method a
  | f => call f a

end LayoutTree.Run
