import LayoutTree.Script.Eval

/-!
Running scripts: a list of steps over one session.

Every step answers a value or the reason why it failed, with the notes taken and the records
logged meanwhile. The steps after a failed one are run all the same.
-/

namespace LayoutTree

structure ScriptStep where
  expr : Expr
  /-- The register that gets the value. -/
  register? : Option Text

structure Script where
  steps : List ScriptStep
  /-- The environment variables that are set at the start, with their texts. -/
  environment : List (Text × Text)
  /-- Log records are written to a stream. -/
  stream : Bool

/-- What a step gave, and the session it left. -/
structure Outcome where
  result : Except Fault Value
  session : Session

namespace Session

def bind (s : Session) (name : Option Text) (v : Value) : Session :=
  match name with
  | some n => s.setRegister n v
  | none => s

/-- A session without the notes and records of earlier steps. -/
def cleared (s : Session) : Session := { s with taken := #[], records := #[] }

/-- Runs one step with an evaluator. -/
def step (ev : Evaluator) (s : Session) (st : ScriptStep) : Outcome :=
  let (result, s) := ((Run.evalExpr st.expr).run ev).run s.cleared
  ⟨result, match result with
    | .ok v => s.bind st.register? v
    | .error _ => s⟩

def runSteps (ev : Evaluator) (s : Session) : List ScriptStep → List Outcome
  | [] => []
  | st :: sts =>
    let o := s.step ev st
    o :: o.session.runSteps ev sts

end Session

namespace Script

/-- How many levels deep blocks and generators may evaluate each other. A script can count such
levels down, but chains that are still longer are taken to be endless. -/
def depth : Nat := 100000

def run (s : Script) : List Outcome :=
  (Session.initial s.environment s.stream).runSteps (.within depth) s.steps

end Script

end LayoutTree
