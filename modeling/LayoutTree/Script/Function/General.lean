import LayoutTree.Script.Function.Layout

/-!
The functions for values in general: comparing, counting, writing and picking.
-/

namespace LayoutTree.Function

open Run

/-- The value itself, if it can be in a set. -/
def hashable (v : Value) : Run Value :=
  match v.unhashable? with
  | some type => throw (.unhashable type)
  | none => pure v

/-- The number of different values among the elements of a value, each of which is looked at
before the next is drawn. No number stands in a range twice. -/
def countDistinct : Function := fun a => do
  match ← a.single with
  | .range n => return .int n.toNat
  | v => return .int (Value.distinct (← forElements v hashable)).length

def length : Function := fun a => do
  match ← a.single with
  | .range n => if n < wordLimit then return .int n.toNat else throw .lengthTooLarge
  | v =>
    match v.elements? with
    | some xs => return .int xs.length
    | none => throw (.noLength v.typeName)

/-- The element at an index, counted from the end if it is negative. -/
def elementAt (container : String) (xs : List Value) (i : Int) : Run Value :=
  match if i < 0 then i + xs.length else i with
  | .ofNat n =>
    match xs[n]? with
    | some x => pure x
    | none => throw (.indexOutOfRange container)
  | .negSucc _ => throw (.indexOutOfRange container)

/-- An index as a number. -/
def indexOf (wrong : String → Fault) : Value → Run Int
  | .int i => pure i
  | .bool b => pure (if b then 1 else 0)
  | v => throw (wrong v.typeName)

/-- The element of a container whose indices have 64 bits. -/
def elementIn (container : String) (wrong : String → Fault) (xs : List Value) (index : Value) :
    Run Value := do
  let i ← indexOf wrong index
  if i < -wordLimit || wordLimit ≤ i then throw .indexTooLarge
  elementAt container xs i

/-- The number at an index of a range. -/
def numberIn (stop : Int) (index : Value) : Run Value := do
  let i ← indexOf (.badIndex "range") index
  let size := max stop 0
  let i := if i < 0 then i + size else i
  if 0 ≤ i && i < size then pure (.int i) else throw (.indexOutOfRange "range object ")

def entryAt (es : Fields) (key : Value) : Run Value := do
  match (← hashable key).text?.bind es.get? with
  | some v => pure v
  | none => throw (.missingKey (← shown key))

/-- What a container holds at an index or under a key. -/
def elementOf : Function := fun a => do
  let container ← a.required 0 "container"
  let key ← a.required 1 "key"
  match container with
  | .list xs => elementIn "list " (.badIndex "list") xs key
  | .tuple xs => elementIn "tuple " (.badIndex "tuple") xs key
  | .range n => numberIn n key
  | .bytes bs => elementIn "" (.badIndex "byte") (bs.map fun b => .int b.toNat) key
  | .dict _ es => entryAt es key
  | .settingKind k => throw (.typeNotSubscriptable k.name)
  | v =>
    match v.text? with
    | some t => elementIn "string " .badPlace (t.letters.map .text) key
    | none => throw (.notSubscriptable v.typeName)

def general : List (String × Function) := [
  ("eq", fun a => do return .bool ((← a.required 0 "a").equals (← a.required 1 "b"))),
  ("distinct", countDistinct),
  ("len", length),
  ("repr", fun a => do return .text (← written (← a.single))),
  ("at", elementOf)]

end LayoutTree.Function
