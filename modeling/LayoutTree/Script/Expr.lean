import LayoutTree.Number.Double
import LayoutTree.Text.Basic

/-!
The expressions of layout scripts.
-/

namespace LayoutTree

/-- What a generator does with one of its expressions. -/
inductive Action where
  | run
  | yield
deriving DecidableEq, Repr, Inhabited

inductive Expr where
  | null
  | bool (b : Bool)
  | int (i : Int)
  | float (x : Double)
  | text (t : Text)
  | bytes (bs : List UInt8)
  | range (stop : Int)
  /-- A new value that equals no other. -/
  | token
  | list (es : List Expr)
  | tuple (es : List Expr)
  | dict (entries : List (Text × Expr))
  /-- An iterator over the elements of a list, which are evaluated at once. -/
  | iterator (e : Expr)
  /-- A generator, whose expressions are evaluated one by one as it is consumed. -/
  | generator (body : List (Action × Expr))
  /-- A block, whose expression is evaluated each time it is called. -/
  | block (body : Expr)
  | register (name : Text)
  | note (text : Text) (e : Expr)
  | fail (text : Text)
  | call (function : String) (args : List Expr) (named : List (Text × Expr))
  | method (name : Text) (receiver : Expr) (args : List Expr) (named : List (Text × Expr))
  | get (field : Text) (receiver : Expr)
  | set (field : Text) (receiver value : Expr)
deriving Inhabited

end LayoutTree
