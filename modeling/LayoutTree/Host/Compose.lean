import LayoutTree.Host.Operation
import LayoutTree.Value.Same

/-!
Composing: node trees become host objects, from the leaves up.

A slot becomes copies of one configured item, a group one host group of what its children become.
A group of more than one subitem whose children are slots of one configuration may be made by
repeating its first item.
-/

namespace LayoutTree.Composer

open Run

/-! ### Making composers -/

/-- Whether a composer repeats items: what the configuration asks for, or what the engine can do
where it does not ask. Asking for what the engine cannot do is met with a warning. -/
def resolveRepeats (engine config : Value) : Run Value := do
  let requested ← field config "repeat_identical_items"
  let supported ← field engine "supports_repeated_items"
  if requested.isNull then pure supported
  else if requested.isTruthy && !supported.isTruthy then do
    let name ← shown (← field engine "name")
    log "layoutbox.compose" .warning ("Engine \x27" ++ name
      ++ "\x27 has no repeat primitive; identical items will be listed explicitly")
    pure (.bool false)
  else pure requested

/-- The engine that is meant: an engine itself, one of a name, or the one from the settings. -/
def resolveEngine (engine : Value) : Run Value := do
  let engine ← if engine.isNull then .ofSetting <$> setting .engine else pure engine
  if engine.text?.isSome then engineNamed engine else pure engine

/-- The configuration that the settings ask for. -/
def configFromSettings : Run Value := return .config (.ofSetting (← setting .repeatItems))

/-- Makes a composer. -/
def make (engine config : Value) : Run Nat := do
  let engine ← resolveEngine engine
  let config ← if config.isNull then configFromSettings else pure config
  newComposer ⟨engine, config, ← resolveRepeats engine config⟩

/-! ### Slots -/

variable (id : Nat)

/-- Asks the engine of a composer for an operation. -/
def operate (operation : String) (operands : Run (List Value)) : Run Value := do
  Run.operate (← composer id).engine operation do return ⟨← operands, []⟩

/-- The insets and the edge spacing of a node, applied to its host object if they are set. -/
def applyConfig (obj node : Value) : Run Value := do
  let insets ← field node "insets"
  let obj ← if insets.isNull then pure obj
    else operate id "with_content_insets" do return [obj, ← field node "insets"]
  let edges ← field node "edge_spacing"
  if edges.isNull then pure obj
  else operate id "with_edge_spacing" do return [obj, ← field node "edge_spacing"]

def configure (obj node : Value) : Run Value :=
  callMethodOr (.composer id) "_apply_box_config" ⟨[obj, node], []⟩ (applyConfig id obj node)

/-- The items of a slot: one item, configured once, as often as the slot says. -/
def composeSlot (slot : Value) : Run (List Value) := do
  let item ← operate id "make_item" do return [← field slot "size"]
  let item ← configure id item slot
  Value.copies item (← field slot "replica_count")

/-! ### Equal slots -/

/-- Adds a configuration to those seen, unless it equals one of them. -/
def addSignature (seen : List Value) (signature : Value) : List Value :=
  if seen.any signature.same then seen else seen ++ [signature]

/-- All children are slots and, with what was seen before, share one configuration: size, insets
and edge spacing. -/
def homogeneousFrom (seen : List Value) : List Value → Except Fault Bool
  | [] => .ok (seen.length == 1)
  | .slot _ _ .absent _ _ _ :: _ => .error (.noRecordField "Slot" "size")
  | .slot _ _ size insets edges _ :: rest =>
    let signature := Value.tuple [size, insets, edges]
    match signature.unhashable? with
    | some type => .error (.unhashable type)
    | none => homogeneousFrom (addSignature seen signature) rest
  | _ :: _ => .ok false

def homogeneous (children : List Value) : Except Fault Bool := homogeneousFrom [] children

/-! ### Groups -/

def directionShown (group : Value) : Run Text := do
  shown (← field (← field group "direction") "value")

/-- A group without children cannot be composed. -/
def requireChildren (group children : Value) : Run Unit := do
  if !children.isTruthy then throw (.emptyGroup (← directionShown group))

/-- The subitems of a group are to be written as copies of the first one. -/
def repeatsItems (group : Value) (subitems : List Value) : Run Bool := do
  if (← composer id).repeats.isTruthy && 1 < subitems.length then
    homogeneous (← elements (← field group "children"))
  else pure false

/-- A host group that repeats the first subitem. -/
def repeatedGroup (group : Value) (subitems : List Value) : Run Value := do
  log "layoutbox.compose" .debug ("Repeating one item " ++ toString subitems.length
    ++ " times in " ++ (← directionShown group) ++ " group")
  operate id "make_repeated_group" do
    let direction ← field group "direction"
    return [direction, ← field group "size", subitems.headD .null, .int subitems.length]

/-- A host group that lists all subitems. -/
def listedGroup (group : Value) (subitems : List Value) : Run Value :=
  operate id "make_group" do
    let direction ← field group "direction"
    return [direction, ← field group "size", .list subitems]

/-- The host group of a group whose subitems are there, configured as the group says. -/
def assemble (group : Value) (subitems : List Value) : Run Value := do
  let obj ← if ← repeatsItems id group subitems then repeatedGroup id group subitems
    else listedGroup id group subitems
  let obj ← configure id obj group
  let spacing ← field group "inter_item_spacing"
  let obj ← if spacing.isNull then pure obj
    else operate id "with_inter_item_spacing" do return [obj, ← field group "inter_item_spacing"]
  log "layoutbox.compose" .debug ("Composed " ++ (← directionShown group) ++ " group with "
    ++ toString subitems.length ++ " subitems")
  pure obj

/-- The items of a slot, made by the composer's method of that name. -/
def slotSubitems (slot : Value) : Run (List Value) := do
  match ← attached? (.composer id) "compose_slot" with
  | some f => elements (← call f ⟨[slot], []⟩)
  | none => composeSlot id slot

variable (deep : Value → Run (List Value))

mutual

/-- What one child of a group becomes. -/
def childSubitems : Value → Run (List Value)
  | .slot i k s n e c => slotSubitems id (.slot i k s n e c)
  | .group i k s n e d g cs => do
    let group := Value.group i k s n e d g cs
    return [← callMethodOr (.composer id) "compose_group" ⟨[group], []⟩ do
      requireChildren group cs
      assemble id group (← groupSubitems cs)]
  | v => throw (.strangerInGroup v.typeName)

/-- What the children of a group become, in order. -/
def groupSubitems : Value → Run (List Value)
  | .list xs => allSubitems 0 xs
  | .tuple xs => allSubitems 0 xs
  | v => do extending 0 (← forElements v deep).flatten

/-- What children become whose elder siblings have become so many subitems. -/
def allSubitems (held : Nat) : List Value → Run (List Value)
  | [] => pure []
  | x :: xs => do
    let ys ← extending held (← childSubitems x)
    return ys ++ (← allSubitems (held + ys.length) xs)

end

/-- Composes a group, or what has the fields of one. -/
def composeGroupWith (group : Value) : Run Value := do
  requireChildren group (← field group "children")
  assemble id group (← groupSubitems id deep (← field group "children"))

/-- What a child becomes whose cursors are nested so many levels deep. -/
def childSubitemsWithin : Nat → Value → Run (List Value)
  | 0 => fun _ => throw .tooDeep
  | n + 1 => childSubitems id (childSubitemsWithin n)

def composeGroup (group : Value) : Run Value := do
  composeGroupWith id (childSubitemsWithin id ((← read).depth + 1)) group

/-- A list of items for a slot, one host group for a group. -/
def compose (node : Value) : Run Value :=
  match node with
  | .slot .. => callMethodOr (.composer id) "compose_slot" ⟨[node], []⟩ do
    return .list (← composeSlot id node)
  | .group .. => callMethodOr (.composer id) "compose_group" ⟨[node], []⟩ (composeGroup id node)
  | .fragment .. => throw .looseFragment
  | v => throw (.notComposable v.typeName)

end LayoutTree.Composer
