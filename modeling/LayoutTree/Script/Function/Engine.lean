import LayoutTree.Script.Function.Layout
import LayoutTree.Value.Json

/-!
The functions for engines, composers, sections and descriptors.
-/

namespace LayoutTree.Function

open Run

def listEngines : Function := fun _ => do
  modify fun s => { s with registry := s.registry.loadBundled }
  return .list (← get).registry.names

/-- The class of trace engines with a label; what it says and what it can do is nothing unless it
is given. -/
def traceClass (a : Arguments) : Run EngineClass := do
  let label ← a.required 0 "label"
  return ⟨.trace (a.optional 2 "implements" (.bool false)).isTruthy, label,
    (a.optional 1 "supports" (.bool false)).isTruthy⟩

def registerEngine : Function := fun a => do
  let c ← traceClass a
  match c.label.unhashable? with
  | some type => throw (.unhashable type)
  | none =>
    modify fun s => { s with registry := s.registry.register c }
    pure (.bool true)

def engines : List (String × Function) := [
  ("get_engine", fun a => do engineNamed (← a.single)),
  ("list_engines", listEngines),
  ("register_engine", registerEngine),
  ("trace_engine", fun a => do newEngine (← traceClass a)),
  ("ModelEngine", fun _ => newEngine .model),
  ("DescriptorEngine", fun _ => newEngine .descriptor)]

def composers : List (String × Function) := [
  ("Composer", fun a => do
    return .composer (← Composer.make (a.orNull 0 "engine") (a.orNull 1 "config"))),
  ("ComposerConfig", fun a => pure (.config (a.orNull 0 "repeat_identical_items"))),
  ("ComposerConfig.from_environment", fun _ => Composer.configFromSettings),
  ("compose", fun a => do
    let node ← a.required 0 "node"
    Composer.compose (← Composer.make (a.orNull 1 "engine") (a.orNull 2 "config")) node)]

def sections : List (String × Function) := [
  ("make_section", fun a => do
    Layout.makeSection (← a.required 0 "group") (a.orNull 1 "engine") (a.orNull 2 "config")
      (a.namedOr "insets" .null) (a.namedOr "inter_group_spacing" .null)),
  ("make_layout", fun a =>
    Layout.make a.positional (a.namedOr "engine" .null) (a.namedOr "config" .null)),
  ("to_json", fun a => do
    let descriptor ← a.required 0 "descriptor"
    let indent := a.optional 1 "indent" (.int 2)
    return .text (← (Value.jsonText descriptor indent : Except Fault Text)))]

def engine : List (String × Function) := engines ++ composers ++ sections

end LayoutTree.Function
