import LayoutTree.Host.Registry
import LayoutTree.Logging

/-!
The state of a running script, and computations over it.

Builders, cursors and composers are shared by all values that refer to them, so their contents
are part of the state, and so are the attributes that a script has attached to values.
-/

namespace LayoutTree

/-- What a builder holds besides its size, insets and edges. -/
inductive BoxContent where
  | item (columns : Value)
  | group (direction space children : Value)

def BoxContent.kind : BoxContent → BoxKind
  | .item _ => .item
  | .group .. => .group

/-- A note: a text of the script, or a call of a trace engine with its operands, under the name by
which the engine goes. -/
inductive Note where
  | text (t : Text)
  | call (label : Text) (method : String) (operands : List Value)

/-- What is told of a note. -/
def Note.told : Note → Text
  | .text t => t
  | .call label method _ => label ++ "." ++ method

/-- A builder. It is made with a size and, if it is a group builder, with children that are what
they should be, and is configured with valid insets; what else it holds is checked only when it is
built. -/
structure Box where
  size : Value
  insets : Value
  edges : Value
  content : BoxContent

/-- What a cursor has yet to give. -/
inductive Pending where
  | values (xs : List Value)
  | statements (body : List (Action × Expr))

def Pending.length : Pending → Nat
  | .values xs => xs.length
  | .statements body => body.length

structure Cursor where
  pending : Pending
  /-- One of its statements is being evaluated. -/
  running : Bool

structure Composer where
  engine : Value
  config : Value
  /-- Equal items of a group are repeated if this counts as true. -/
  repeats : Value

structure Session where
  registers : Fields
  boxes : Array Box
  cursors : Array Cursor
  composers : Array Composer
  attributes : List (Identity × Fields)
  /-- The loggers that were asked for. -/
  loggers : List Text
  /-- The next free identity. -/
  serial : Nat
  registry : Registry
  environment : Environment
  logging : Logging
  /-- The notes taken. -/
  taken : Array Note
  records : Array LogRecord

/-- The arguments of a call: some by position, others by name. -/
structure Arguments where
  positional : List Value
  named : Fields

namespace Arguments

def none : Arguments := ⟨[], []⟩

def isEmpty (a : Arguments) : Bool := a.positional.isEmpty && a.named.isEmpty

end Arguments

namespace Session

def initial (environment : List (Text × Text)) (stream : Bool) : Session where
  registers := []
  boxes := #[]
  cursors := #[]
  composers := #[]
  attributes := []
  loggers := ["root", "layoutbox.builder", "layoutbox.compose"]
  serial := 1
  registry := .empty
  environment := .ofList environment
  logging := .initial stream
  taken := #[]
  records := #[]

def notes (s : Session) : Array Text := s.taken.map (·.told)

def setRegister (s : Session) (name : Text) (v : Value) : Session :=
  { s with registers := (name, v) :: s.registers.filter (·.1 != name) }

/-! ### Attributes -/

/-- The attributes attached to an identity. -/
def attributesOf (s : Session) (i : Identity) : Fields := (s.attributes.lookup i).getD []

def attribute? (s : Session) (i : Identity) (name : Text) : Option Value :=
  (s.attributesOf i).get? name

def setAttributes (s : Session) (i : Identity) (fs : Fields) : Session :=
  { s with attributes := (i, fs) :: s.attributes.filter (·.1 != i) }

def setAttribute (s : Session) (i : Identity) (name : Text) (v : Value) : Session :=
  s.setAttributes i ((s.attributesOf i).put name v)

@[simp] theorem attributesOf_setAttributes_self (s : Session) (i : Identity) (fs : Fields) :
    (s.setAttributes i fs).attributesOf i = fs := by
  simp [attributesOf, setAttributes]

theorem attributesOf_setAttributes_of_ne {i j : Identity} (h : j ≠ i) (s : Session)
    (fs : Fields) : (s.setAttributes i fs).attributesOf j = s.attributesOf j := by
  have hb : (j == i) = false := by simpa using h
  suffices ∀ l : List (Identity × Fields), (l.filter (·.1 != i)).lookup j = l.lookup j by
    simp [attributesOf, setAttributes, List.lookup_cons, hb, this]
  intro l
  induction l with
  | nil => rfl
  | cons e l ih =>
    obtain ⟨k, gs⟩ := e
    by_cases hk : k = i
    · simp [hk, List.lookup_cons, hb, ih]
    · simp [hk, List.lookup_cons, ih]

/-- What is attached to one value shows in no other. -/
theorem attribute?_setAttribute_of_ne {i j : Identity} (h : j ≠ i) (s : Session)
    (name other : Text) (v : Value) :
    (s.setAttribute i name v).attribute? j other = s.attribute? j other := by
  simp [attribute?, setAttribute, attributesOf_setAttributes_of_ne h]

/-! ### Loggers -/

def loggerShown (s : Session) (logger : Text) : Text :=
  ((s.attribute? (.logger logger) "name").map (·.shown id)).getD logger

def loggerLevel (s : Session) (logger : Text) : Value :=
  (s.attribute? (.logger logger) "level").getD (s.logging.ownLevel logger)

/-- A logger hands its records on to the next one above it. -/
def handsOn (s : Session) (logger : Text) : Bool :=
  ((s.attribute? (.logger logger) "propagate").map (·.isTruthy)).getD true

def loggerWritten (s : Session) (logger : Text) : Text :=
  Logger.written s.loggerLevel s.loggerShown logger

end Session

/-- A computation that may fail; the state reached by then is kept. -/
abbrev Act := ExceptT Fault (StateM Session)

/-- How to evaluate what values carry unevaluated, and how many levels deep. -/
structure Evaluator where
  eval : Expr → Act Value
  /-- Calls a method that a value is bound to. -/
  invoke : Value → String → Arguments → Act Value
  depth : Nat

/-- A computation that may evaluate expressions. -/
abbrev Run := ReaderT Evaluator Act

/-- An evaluator that evaluates nothing. -/
def Evaluator.none : Evaluator where
  eval _ := throw .tooDeep
  invoke _ _ _ := throw .tooDeep
  depth := 0

namespace Run

def evaluate (e : Expr) : Run Value := do (← read).eval e

def invoke (v : Value) (name : String) (a : Arguments) : Run Value := do
  (← read).invoke v name a

/-- An identity that was not given out before. -/
def fresh : Run Nat := modifyGet fun s => (s.serial, { s with serial := s.serial + 1 })

/-- A dict that is told from all others. -/
def newDict (fs : Fields) : Run Value := return .dict (← fresh) fs

def note (n : Note) : Run Unit := modify fun s => { s with taken := s.taken.push n }

/-- The expression that denotes a value. -/
def written (v : Value) : Run Text := return v.written (← get).loggerWritten

/-- A value shown on its own. -/
def shown (v : Value) : Run Text := return v.shown (← get).loggerWritten

def newBox (b : Box) : Run Value := modifyGet fun s =>
  (.box b.content.kind s.boxes.size, { s with boxes := s.boxes.push b })

def box (id : Nat) : Run Box := do
  match (← get).boxes[id]? with
  | some b => pure b
  | none => throw .wrongArguments

def setBox (id : Nat) (b : Box) : Run Unit := modify fun s =>
  { s with boxes := s.boxes.setIfInBounds id b }

def newCursor (p : Pending) : Run Value := modifyGet fun s =>
  (.cursor (match p with | .values _ => .iterator | .statements _ => .generator) s.cursors.size,
    { s with cursors := s.cursors.push ⟨p, false⟩ })

def cursor (id : Nat) : Run Cursor := do
  match (← get).cursors[id]? with
  | some c => pure c
  | none => throw .wrongArguments

def setCursor (id : Nat) (c : Cursor) : Run Unit := modify fun s =>
  { s with cursors := s.cursors.setIfInBounds id c }

def newComposer (c : Composer) : Run Nat := modifyGet fun s =>
  (s.composers.size, { s with composers := s.composers.push c })

def composer (id : Nat) : Run Composer := do
  match (← get).composers[id]? with
  | some c => pure c
  | none => throw .wrongArguments

def setComposer (id : Nat) (c : Composer) : Run Unit := modify fun s =>
  { s with composers := s.composers.setIfInBounds id c }

def setting (s : Setting) : Run SettingValue := return s.valueIn (← get).environment

/-- A new engine of a class. -/
def newEngine (c : EngineClass) : Run Value := return c.engine (← fresh)

end Run

end LayoutTree
