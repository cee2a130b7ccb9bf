import LayoutTree.Tree.Build
import LayoutTree.Tree.Flatten

/-!
Blocks: what may stand in one, and the node it becomes.

A node stands for itself, a builder for the node that it builds at that moment, null for nothing,
and anything with elements, texts and byte strings apart, for a fragment of them.
-/

namespace LayoutTree.Block

open Run

/-- A fragment of nodes. What a script builds in the place of a node is validated here. -/
def fragment (nodes : List Value) : Run Value := construct "Fragment" [("items", .tuple nodes)]

/-- The fragment that stands for nothing. -/
def emptyFragment : Run Value := construct "Fragment" []

/-- Why a value has no place in a block. -/
def refuse (v : Value) : Run Value := do
  match v with
  | .bytes _ => throw (.textInBlock (← written v))
  | _ =>
    if v.text?.isSome then throw (.textInBlock (← written v))
    else throw (.strangerInBlock v.typeName)

/-- What values become whose elements are texts or numbers: only without elements a fragment. -/
def arrayOfStrangers (elements : List Value) : Run Value :=
  match elements with
  | [] => fragment []
  | x :: _ => refuse x

/-- The node of a value that is neither a node nor a builder nor a sequence of its own. The fields
of a layout value are led by their names, which are texts. -/
def other (v : Value) : Run Value :=
  match v.fields? with
  | some [] => fragment []
  | some ((name, _) :: _) => refuse (.text name)
  | none =>
    match v with
    | .dict _ fs => arrayOfStrangers (fs.map fun f => .text f.1)
    | .range n => if 0 < n then refuse (.int 0) else fragment []
    | v => refuse v

section Components

variable (deep : Value → Run Value)

mutual

/-- The node that a value in a block becomes. -/
def componentWith : Value → Run Value
  | .slot id k s i e n => pure (.slot id k s i e n)
  | .group id k s i e d g cs => pure (.group id k s i e d g cs)
  | .fragment id k xs => pure (.fragment id k xs)
  | .box kind id => Builder.node kind id
  | .null => emptyFragment
  | .list xs => do fragment (← componentsWith xs)
  | .tuple xs => do fragment (← componentsWith xs)
  | .cursor _ id => do fragment (← forDrawn id deep)
  | v => other v

def componentsWith : List Value → Run (List Value)
  | [] => pure []
  | x :: xs => return (← componentWith x) :: (← componentsWith xs)

end

end Components

/-- The node of a value whose cursors are nested so many levels deep. -/
def componentWithin : Nat → Value → Run Value
  | 0 => fun _ => throw .tooDeep
  | n + 1 => componentWith (componentWithin n)

def component (v : Value) : Run Value := do componentWithin ((← read).depth + 1) v

def components : List Value → Run (List Value)
  | [] => pure []
  | x :: xs => return (← component x) :: (← components xs)

/-- Values one after the other: one stands for itself, several or none become a fragment. -/
def combine (values : List Value) : Run Value := do
  match ← components values with
  | [node] => pure node
  | nodes => fragment nodes

/-- A value that may be null. -/
def optional (v : Value) : Run Value := if v.isNull then emptyFragment else component v

/-- The fragment of all elements of a value. -/
def fromArray (v : Value) : Run Value := do fragment (← forElements v component)

/-- A block can be called. -/
def isCallable : Value → Bool
  | .block .. => true
  | .method .. => true
  | .settingKind _ => true
  | _ => false

/-- Calls a block and makes one node of what it gives. Each element of a sequence becomes a node
before the next one is drawn. -/
def node (block : Value) : Run Value := do
  if !isCallable block then throw (.notBlock block.typeName)
  match ← call block .none with
  | .list xs => do combine (← components xs)
  | .tuple xs => do combine (← components xs)
  | .cursor _ id => do combine (← forDrawn id component)
  | v => component v

end LayoutTree.Block
