import LayoutTree.Session.Cursor

/-!
Nodes: slots, groups and the fragments between them.

A fragment only carries other nodes. Flattening a node leaves its slots and groups in order and
forgets the fragments around them.
-/

namespace LayoutTree.Node

open Run

/-- The elements of other values are never nodes. -/
def flattenStrangers (v : Value) : Run (List Value) :=
  forElements v fun x => throw (.notNode x.typeName)

section Flattening

variable (deep : Value → Run (List Value))

mutual

/-- The slots and groups of a node, in order. -/
def flattenWith : Value → Run (List Value)
  | .fragment _ _ items => flattenItems items
  | .slot id k s i e n => pure [.slot id k s i e n]
  | .group id k s i e d g cs => pure [.group id k s i e d g cs]
  | v => throw (.notNode v.typeName)

/-- What a fragment holds is flattened element by element. -/
def flattenItems : Value → Run (List Value)
  | .list xs => flattenAll xs
  | .tuple xs => flattenAll xs
  | .cursor _ id => List.flatten <$> forDrawn id deep
  | v => flattenStrangers v

def flattenAll : List Value → Run (List Value)
  | [] => pure []
  | x :: xs => return (← flattenWith x) ++ (← flattenAll xs)

end

@[simp] theorem flattenAll_append (xs ys : List Value) :
    flattenAll deep (xs ++ ys) =
      do return (← flattenAll deep xs) ++ (← flattenAll deep ys) := by
  induction xs with
  | nil => simp [flattenAll]
  | cons x xs ih =>
    simp only [List.cons_append, flattenAll, ih, bind_assoc, pure_bind, List.append_assoc]

end Flattening

/-- Flattens a node whose cursors are nested so many levels deep. -/
def flattenWithin : Nat → Value → Run (List Value)
  | 0 => fun _ => throw .tooDeep
  | n + 1 => flattenWith (flattenWithin n)

def flatten (v : Value) : Run (List Value) := do flattenWithin ((← read).depth + 1) v

end LayoutTree.Node
