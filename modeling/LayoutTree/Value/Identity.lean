import LayoutTree.Value.Basic

/-!
Identities: what tells a value from its equals.

Attributes are attached to identities. A copy of a layout value is the same value with a new
identity.
-/

namespace LayoutTree

inductive Identity where
  /-- A layout value, a host object, an engine or a block. -/
  | object (id : Nat)
  | box (id : Nat)
  | composer (id : Nat)
  | logger (name : Text)
  /-- A member of a choice or a setting, under its full name. -/
  | member (name : String)
deriving DecidableEq, Repr

namespace Value

/-- The identity of a value, if it has one. -/
def identity? : Value → Option Identity
  | .dimension d => some (.object d.id)
  | .size s => some (.object s.id)
  | .spacing s => some (.object s.id)
  | .insets i => some (.object i.id)
  | .edges id .. => some (.object id)
  | .slot id .. => some (.object id)
  | .group id .. => some (.object id)
  | .fragment id .. => some (.object id)
  | .item id .. => some (.object id)
  | .itemGroup id .. => some (.object id)
  | .hostSection id .. => some (.object id)
  | .hostLayout id _ => some (.object id)
  | .box _ id => some (.box id)
  | .block id _ => some (.object id)
  | .engine id .. => some (.object id)
  | .composer id => some (.composer id)
  | .logger name => some (.logger name)
  | .setting s => some (.member ("EnvVar." ++ s.name))
  | v => v.memberName?.map .member

/-- A layout value or host object with another identity. -/
def withId (id : Nat) : Value → Value
  | .dimension d => .dimension { d with id }
  | .size s => .size { s with id }
  | .spacing s => .spacing { s with id }
  | .insets i => .insets { i with id }
  | .edges _ l t r b => .edges id l t r b
  | .slot _ k s i e n => .slot id k s i e n
  | .group _ k s i e d g cs => .group id k s i e d g cs
  | .fragment _ k xs => .fragment id k xs
  | .item _ s i e => .item id s i e
  | .itemGroup _ s d xs n i e g => .itemGroup id s d xs n i e g
  | .hostSection _ g i x => .hostSection id g i x
  | .hostLayout _ xs => .hostLayout id xs
  | v => v

/-! ### Methods -/

/-- The methods that belong to a value's type rather than to the value. -/
def classMethods : Value → List String
  | .dimension _ => ["fractional_width", "fractional_height", "absolute", "estimated"]
  | .spacing _ => ["fixed", "flexible"]
  | .insets _ => ["uniform"]
  | .slot .. => ["model_construct"]
  | .group .. => ["model_construct"]
  | .fragment .. => ["model_construct"]
  | .config _ => ["from_environment"]
  | .box .group _ => ["horizontal", "vertical"]
  | _ => []

/-- The other methods of a value. -/
def ownMethods : Value → List String
  | .edges .. => ["with_edge", "model_copy"]
  | .box kind _ =>
    ["size", "insets", "edges", "leading", "top", "trailing", "bottom", "_set_edge", "build",
      "compose"] ++ (match kind with | .group => ["space"] | .item => [])
  | .composer _ =>
    ["compose", "compose_slot", "compose_group", "_resolve_repeat_items", "_apply_box_config"]
  | .engine .. => ["make_item", "make_group", "make_repeated_group", "with_content_insets",
      "with_edge_spacing", "with_inter_item_spacing", "make_section", "make_layout"]
  | v => if v.isRecord then ["model_copy"] else []

/-- The value has a method of this name. -/
def hasMethod (v : Value) (name : String) : Bool :=
  v.ownMethods.contains name || v.classMethods.contains name

/-- The method of one value is the same as that of another: it belongs to their type, or the
values are the same. -/
def sameMethod (v w : Value) (name : String) : Bool :=
  if v.classMethods.contains name then v.typeName == w.typeName
  else v.identity? == w.identity?

@[simp] theorem sameMethod_self (v : Value) (name : String) : sameMethod v v name = true := by
  simp [sameMethod]

end Value

end LayoutTree
