import LayoutTree.Host.Descriptor
import LayoutTree.Host.Model
import LayoutTree.Session.Argument

/-!
The operations of engines, by kind.

A trace engine makes a list of the operation and its operands and takes a note of each call.
-/

namespace LayoutTree

namespace EngineClass

open Run

variable (c : EngineClass)

/-- A note of a call, and the list it makes. -/
def traced (method : String) (operands : List Value) (parts : Run (List Value)) : Run Value := do
  note (.call (← shown c.label) method operands)
  return .list (← parts)

def makeItem (size : Value) : Run Value :=
  match c.kind with
  | .model => Model.makeItem size
  | .descriptor => Descriptor.makeItem size
  | .trace _ => c.traced "make_item" [size] (pure [.text "item", size])

def makeGroup (direction size subitems : Value) : Run Value :=
  match c.kind with
  | .model => Model.makeGroup direction size subitems
  | .descriptor => Descriptor.makeGroup direction size subitems
  | .trace _ => c.traced "make_group" [direction, size, subitems] do
      return [.text "group", direction, size, .list (← elements subitems)]

/-- A group that repeats one item, which only some engines can make. -/
def makeRepeatedGroup (direction size item count : Value) : Run Value :=
  match c.kind with
  | .model => Model.makeRepeatedGroup direction size item count
  | .trace true => c.traced "make_repeated_group" [direction, size, item, count]
      (pure [.text "repeat", direction, size, item, count])
  | _ => do throw (.cannotRepeat (← shown c.label))

def withContentInsets (obj insets : Value) : Run Value :=
  match c.kind with
  | .model => Model.configured obj "content_insets" insets
  | .descriptor => Descriptor.extended obj "contentInsets" (Descriptor.insets insets)
  | .trace _ => c.traced "with_content_insets" [obj, insets]
      (pure [.text "insets", obj, insets])

def withEdgeSpacing (obj edges : Value) : Run Value :=
  match c.kind with
  | .model => Model.configured obj "edge_spacing" edges
  | .descriptor => Descriptor.extended obj "edgeSpacing" (Descriptor.edges edges)
  | .trace _ => c.traced "with_edge_spacing" [obj, edges]
      (pure [.text "edges", obj, edges])

def withInterItemSpacing (group spacing : Value) : Run Value :=
  match c.kind with
  | .model => Model.configured group "inter_item_spacing" spacing
  | .descriptor => Descriptor.extended group "interItemSpacing" (Descriptor.spacing spacing)
  | .trace _ => c.traced "with_inter_item_spacing" [group, spacing]
      (pure [.text "spacing", group, spacing])

def makeSection (group insets spacing : Value) : Run Value :=
  match c.kind with
  | .model => Model.makeSection group insets spacing
  | .descriptor => Descriptor.makeSection group insets spacing
  | .trace _ => c.traced "make_section" [group, insets, spacing]
      (pure [.text "section", group, insets, spacing])

def makeLayout (sections : Value) : Run Value :=
  match c.kind with
  | .model => Model.makeLayout sections
  | .descriptor => Descriptor.makeLayout sections
  | .trace _ => c.traced "make_layout" [sections] do
      return [.text "layout", .list (← elements sections)]

/-- The operation of a name. -/
def operate (operation : String) (a : Arguments) : Run Value := do
  match operation with
  | "make_item" => c.makeItem (← a.required 0 "size")
  | "make_group" =>
    c.makeGroup (← a.required 0 "direction") (← a.required 1 "size") (← a.required 2 "subitems")
  | "make_repeated_group" =>
    c.makeRepeatedGroup (← a.required 0 "direction") (← a.required 1 "size")
      (← a.required 2 "item") (← a.required 3 "count")
  | "with_content_insets" =>
    c.withContentInsets (← a.required 0 "obj") (← a.required 1 "insets")
  | "with_edge_spacing" => c.withEdgeSpacing (← a.required 0 "obj") (← a.required 1 "edges")
  | "with_inter_item_spacing" =>
    c.withInterItemSpacing (← a.required 0 "group") (← a.required 1 "spacing")
  | "make_section" =>
    c.makeSection (← a.required 0 "group") (a.orNull 1 "insets") (a.orNull 2 "inter_group_spacing")
  | "make_layout" => c.makeLayout (← a.required 0 "sections")
  | _ => throw .wrongArguments

end EngineClass

namespace Run

/-- Asks an engine for an operation. What stands under the operation's name is looked up before
the operands are, and called with them, whatever it is. -/
def operate (engine : Value) (operation : String) (operands : Run Arguments) : Run Value := do
  let f ← field engine operation
  let a ← operands
  match f with
  | .method (.engine _ kind label supports) operation =>
    EngineClass.operate ⟨kind, label, supports⟩ operation a
  | f => call f a

/-- The registered engine of a name, as a new instance. The bundled engines are loaded if the
name is not known. -/
def engineNamed (name : Value) : Run Value := do
  match name.unhashable? with
  | some type => throw (.unhashable type)
  | none =>
    modify fun s => { s with registry := s.registry.lookUp name }
    let r := (← get).registry
    match r.find? name with
    | some c => newEngine c
    | none =>
      match Registry.texts 0 r.names with
      | .ok available => throw (.unknownEngine (← shown name) available)
      | .error (place, type) => throw (.notName place type)

end Run

end LayoutTree
