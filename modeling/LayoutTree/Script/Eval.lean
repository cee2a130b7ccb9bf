import LayoutTree.Script.Function.Engine
import LayoutTree.Script.Function.General
import LayoutTree.Script.Function.Setting

/-!
Evaluating expressions.

Evaluation follows the expression. What a block or a generator carries is evaluated later, by an
evaluator that goes one level less deep.
-/

namespace LayoutTree

namespace Function

def all : List (String × Function) := layout ++ engine ++ environment ++ general

/-- Functions that belong to a bundled engine load it as soon as they are named. -/
def loads : String → Registry → Registry
  | "ModelEngine" | "Item" | "ItemGroup" | "Section" | "CompositionalLayout" => Registry.loadModel
  | "DescriptorEngine" | "to_json" => Registry.loadDescriptor
  | _ => id

end Function

namespace Run

def register (name : Text) : Run Value := do
  match (← get).registers.get? name with
  | some v => pure v
  | none => throw (.unbound name)

/-- A double as a value; each not-a-number is a new one. -/
def newFloat (x : Double) : Run Value :=
  match x with
  | .nan _ => return .float (.nan (← fresh))
  | x => pure (.float x)

def callFunction (name : String) (a : Arguments) : Run Value :=
  match Function.all.lookup name with
  | some f => f a
  | none => throw .wrongArguments

mutual

def evalExpr : Expr → Run Value
  | .null => pure .null
  | .bool b => pure (.bool b)
  | .int i => pure (.int i)
  | .float x => newFloat x
  | .text s => pure (.text s)
  | .bytes bs => pure (.bytes bs)
  | .range n => pure (.range n)
  | .token => return .token (← fresh)
  | .list es => .list <$> evalAll es
  | .tuple es => .tuple <$> evalAll es
  | .dict es => do newDict (← evalEntries es)
  | .iterator e => do newCursor (.values (← elements (← evalExpr e)))
  | .generator body => newCursor (.statements body)
  | .block body => return .block (← fresh) body
  | .register name => register name
  | .note text e => do
    note (.text text)
    evalExpr e
  | .fail text => throw (.raised text)
  | .call f args named => do
    modify fun s => { s with registry := Function.loads f s.registry }
    let args ← evalAll args
    callFunction f ⟨args, ← evalEntries named⟩
  | .method name receiver args named => do
    let f ← field (← evalExpr receiver) name
    let args ← evalAll args
    callValue f ⟨args, ← evalEntries named⟩
  | .get name receiver => do field (← evalExpr receiver) name
  | .set name receiver value => do
    let v ← evalExpr receiver
    assign v name (← evalExpr value)
    pure v

def evalAll : List Expr → Run (List Value)
  | [] => pure []
  | e :: es => return (← evalExpr e) :: (← evalAll es)

def evalEntries : List (Text × Expr) → Run Fields
  | [] => pure []
  | (k, e) :: es => return (k, ← evalExpr e) :: (← evalEntries es)

end

end Run

/-- The evaluator that goes so many levels deep. -/
def Evaluator.within : Nat → Evaluator
  | 0 => .none
  | n + 1 => {
      eval := fun e => (Run.evalExpr e).run (within n)
      invoke := fun v name a => (Run.boundMethod v name a).run (within n)
      depth := n }

end LayoutTree
