import LayoutTree.Text.Basic

/-!
What validation finds wrong, and where.
-/

namespace LayoutTree

/-- One step on the way to a place inside a value. -/
inductive Step where
  | name (t : Text)
  | index (n : Nat)
deriving DecidableEq, Repr

inductive IssueKind where
  /-- A required field is not given. -/
  | missing
  /-- A layout value was expected. -/
  | notModel
  /-- A text that is no string of characters. -/
  | notText
  | notNumber
  /-- A text that is no numeral of a number. -/
  | notNumeral
  | notWhole
  /-- A text that is no numeral of a whole number. -/
  | notWholeNumeral
  /-- A number with a fraction where a whole number was expected. -/
  | fractional
  | notFinite
  /-- A number too large to be taken for a whole number. -/
  | tooLarge
  | tooSmall
  | notMember
  | notLiteral
  | notSequence
  /-- Iteration failed. -/
  | broken
  /-- A field of a layout value cannot be assigned. -/
  | frozen
  /-- A dict inside itself. -/
  | recursive
deriving DecidableEq, Repr

def IssueKind.name : IssueKind → String
  | .missing => "missing"
  | .notModel => "model_type"
  | .notText => "string_unicode"
  | .notNumber => "float_type"
  | .notNumeral => "float_parsing"
  | .notWhole => "int_type"
  | .notWholeNumeral => "int_parsing"
  | .fractional => "int_from_float"
  | .notFinite => "finite_number"
  | .tooLarge => "int_parsing_size"
  | .tooSmall => "greater_than_equal"
  | .notMember => "enum"
  | .notLiteral => "literal_error"
  | .notSequence => "tuple_type"
  | .broken => "iteration_error"
  | .frozen => "frozen_instance"
  | .recursive => "recursion_loop"

structure Issue where
  kind : IssueKind
  path : List Step
deriving DecidableEq, Repr

/-- The issue seen from one step further out. -/
def Issue.under (step : Step) (i : Issue) : Issue := { i with path := step :: i.path }

end LayoutTree
