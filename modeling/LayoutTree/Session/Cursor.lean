import LayoutTree.Session.Attribute

/-!
Drawing elements from cursors, and the elements of values in general.

A cursor gives each of its elements once. A generator evaluates its statements up to the next one
that yields; while it does so nothing can be drawn from it, and after an error it is finished.
-/

namespace LayoutTree.Run

variable {α : Type}

/-- Evaluates the statements of a generator up to the next one that yields. -/
def advance (id : Nat) : List (Action × Expr) → Run (Option Value)
  | [] => do
    setCursor id ⟨.statements [], false⟩
    pure none
  | (action, e) :: rest => do
    setCursor id ⟨.statements rest, true⟩
    let v ← tryCatch (evaluate e) fun f => do
      setCursor id ⟨.statements [], false⟩
      throw f
    match action with
    | .run => advance id rest
    | .yield => do
      setCursor id ⟨.statements rest, false⟩
      pure (some v)

/-- The next element of a cursor, if there is one. -/
def draw (id : Nat) : Run (Option Value) := do
  let c ← cursor id
  match c.pending with
  | .values [] => pure none
  | .values (x :: xs) => do
    setCursor id ⟨.values xs, false⟩
    pure (some x)
  | .statements body => if c.running then throw .alreadyRunning else advance id body

/-- Draws up to so many elements and hands each one on before the next is drawn. -/
def drawn (id : Nat) (f : Value → Run α) : Nat → Run (List α)
  | 0 => pure []
  | n + 1 => do
    match ← draw id with
    | none => pure []
    | some v => do
      let a ← f v
      return a :: (← drawn id f n)

/-- Hands on the elements of a cursor one by one. What is pending bounds their number. -/
def forDrawn (id : Nat) (f : Value → Run α) : Run (List α) := do
  drawn id f ((← cursor id).pending.length + 1)

/-- The fields of a layout value with their names, and the attributes attached to it that are not
hidden by an underscore. -/
def pairs (v : Value) (fs : Fields) : Run (List Value) := do
  let s ← get
  let attached := (v.identity?.map s.attributesOf).getD []
  return (fs ++ attached.filter fun f => !f.1.startsWith "_").map fun f =>
    .tuple [.text f.1, f.2]

/-- The elements of a value that is no cursor. -/
def elementsAtHand? (v : Value) : Run (Option (List Value)) :=
  match v.fields? with
  | some fs => some <$> pairs v fs
  | none => pure v.elements?

/-- Hands on as many whole numbers in a row, from one on. -/
def forNumbers (f : Value → Run α) (first : Nat) : Nat → Run (List α)
  | 0 => pure []
  | n + 1 => do
    let a ← f (.int first)
    return a :: (← forNumbers f (first + 1) n)

/-- Hands on the elements of a value one by one. The numbers of a range are not made before they
are handed on. -/
def forElements (v : Value) (f : Value → Run α) : Run (List α) := do
  match v with
  | .cursor _ id => forDrawn id f
  | .range n => forNumbers f 0 n.toNat
  | _ =>
    match ← elementsAtHand? v with
    | some xs => xs.mapM f
    | none => throw (.notIterable v.typeName)

/-- The elements of a value. -/
def elements (v : Value) : Run (List Value) := forElements v pure

end LayoutTree.Run
