import LayoutTree.Session.Cursor
import LayoutTree.Validation.Model

/-!
Making validated values from named fields.

What stands where elements are expected is settled first, in the order in which the fields are
read: cursors are drawn, and other sequences become lists. What is read afterwards is plain data.
Nothing is drawn from a dict where it is not read, as when it stands inside itself.
-/

namespace LayoutTree

/-- What a dict may be read as, as far as it matters for the sequences inside it. -/
inductive Shape where
  | child
  | fragment
  | node
  | subitem
  | hostSection
  | hostLayout
  /-- A type without sequences. -/
  | flat
deriving DecidableEq

def Shape.ofType : String → Shape
  | "Group" => .child
  | "Fragment" => .fragment
  | "ItemGroup" => .subitem
  | "Section" => .hostSection
  | "CompositionalLayout" => .hostLayout
  | _ => .flat

namespace Run

/-- The fields with another value for one of them. -/
def replaced (name : String) (v : Option Value) (fs : Fields) : Fields :=
  match v with
  | some v => fs.put name v
  | none => fs

/-- Draws the elements of a cursor, each of them settled before the next is drawn. An iteration
that fails is replaced by a mark of its place, which is one past the elements that it gave. -/
def settleDrawn (id : Nat) (settle : Value → Run Value) : Nat → List Value → Run Value
  | 0, xs => pure (.list xs.reverse)
  | n + 1, xs => do
    match ← tryCatch (some <$> draw id) (fun _ => pure none) with
    | none => pure (.spent (xs.length + 1))
    | some none => pure (.list xs.reverse)
    | some (some x) => do settleDrawn id settle n ((← settle x) :: xs)

/-- Settles a value that is neither a container nor a cursor. Dicts, texts and byte strings are no
sequences here. -/
def settleOther (v : Value) : Run Value :=
  match v with
  | .dict id fs => pure (.dict id fs)
  | .bytes bs => pure (.bytes bs)
  | v => do
    if v.text?.isSome then pure v
    else
      match ← elementsAtHand? v with
      | some xs => pure (.list xs)
      | none => pure v

/-- Settles a part of a dict that is read as a type that may hold others of its own kind. -/
def nested (outer : Nesting) (type : String) (id : Nat)
    (settle : Nesting → Run (Option Value)) : Run (Option Value) :=
  (outer.enter? type id).elim (pure none) settle

section Settling

variable (deep : Shape → Nesting → Value → Run Value)

mutual

/-- Settles the sequences inside a dict of a shape. -/
def settleWith (s : Shape) (outer : Nesting) : Value → Run Value
  | .dict id fs =>
    match s with
    | .child => do
      let c ← nested outer "Group" id fun inner => settlePart .child inner "children" fs
      pure (.dict id (replaced "children" c fs))
    | .fragment => do
      let i ← nested outer "Fragment" id fun inner => settlePart .node inner "items" fs
      pure (.dict id (replaced "items" i fs))
    | .node => do
      let c ← nested outer "Group" id fun inner => settlePart .child inner "children" fs
      let i ← nested outer "Fragment" id fun inner => settlePart .node inner "items" fs
      pure (.dict id (replaced "items" i (replaced "children" c fs)))
    | .subitem => do
      let c ← nested outer "ItemGroup" id fun inner => settlePart .subitem inner "subitems" fs
      pure (.dict id (replaced "subitems" c fs))
    | .hostSection => do
      let g ← settleGroup fs
      pure (.dict id (replaced "group" g fs))
    | .hostLayout => do
      let c ← settlePart .hostSection [] "sections" fs
      pure (.dict id (replaced "sections" c fs))
    | .flat => pure (.dict id fs)
  | v => pure v

/-- Settles a sequence whose elements have a shape. -/
def settleSequence (s : Shape) (outer : Nesting) : Value → Run Value
  | .list xs => .list <$> settleEach s outer xs
  | .tuple xs => .tuple <$> settleEach s outer xs
  | .cursor _ id => do settleDrawn id (deep s outer) ((← cursor id).pending.length + 1) []
  | v => settleOther v

def settleEach (s : Shape) (outer : Nesting) : List Value → Run (List Value)
  | [] => pure []
  | x :: xs => return (← settleWith s outer x) :: (← settleEach s outer xs)

/-- The settled sequence under a name. -/
def settlePart (s : Shape) (outer : Nesting) (name : String) : Fields → Run (Option Value)
  | [] => pure none
  | (k, v) :: fs =>
    if k == name then some <$> settleSequence s outer v else settlePart s outer name fs

/-- The settled group of a section. -/
def settleGroup : Fields → Run (Option Value)
  | [] => pure none
  | (k, v) :: fs => if k == "group" then some <$> settleWith .subitem [] v else settleGroup fs

end

end Settling

/-- Settles a value whose cursors are nested so many levels deep. -/
def settleWithin : Nat → Shape → Nesting → Value → Run Value
  | 0 => fun _ _ _ => throw .tooDeep
  | n + 1 => settleWith (settleWithin n)

/-- The value that is read, or its type with all issues. -/
def finish (type : String) (r : Reading Value) : Run Value := do
  let verdict ← modifyGet fun s =>
    let p := r s.serial
    (p.1, { s with serial := p.2 })
  match verdict with
  | .read v _ _ => pure v
  | .refused is => throw (.invalid type is)

/-- Makes a value of a type from named fields. -/
def construct (type : String) (fs : Fields) : Run Value := do
  match ← settleWithin ((← read).depth + 1) (.ofType type) [] (← newDict fs) with
  | .dict id fs =>
    match Value.ofFields? type id fs with
    | some r => finish type r
    | none => throw .wrongArguments
  | _ => throw .wrongArguments

end Run

end LayoutTree
