import LayoutTree.Session.Basic

/-!
The arguments of calls: some by position, others by name.
-/

namespace LayoutTree

namespace Arguments

/-- The argument at a position or with a name. -/
def find? (a : Arguments) (i : Nat) (name : String) : Option Value :=
  a.positional[i]? <|> a.named.get? name

/-- An argument with a default. -/
def optional (a : Arguments) (i : Nat) (name : String) (default : Value) : Value :=
  (a.find? i name).getD default

/-- An argument that is null unless it is given. -/
def orNull (a : Arguments) (i : Nat) (name : String) : Value := a.optional i name .null

/-- An argument that is given only by name. -/
def namedOr (a : Arguments) (name : String) (default : Value) : Value :=
  (a.named.get? name).getD default

def required (a : Arguments) (i : Nat) (name : String) : Run Value :=
  match a.find? i name with
  | some v => pure v
  | .none => throw .wrongArguments

/-- The argument of a function that has a single one, whatever its name. -/
def single (a : Arguments) : Run Value :=
  match a.positional, a.named with
  | [v], [] => pure v
  | [], [(_, v)] => pure v
  | _, _ => throw .wrongArguments

/-- An argument that is a text. -/
def text (a : Arguments) (i : Nat) (name : String) : Run Text := do
  match (← a.required i name).text? with
  | some s => pure s
  | .none => throw .wrongArguments

end Arguments

end LayoutTree
