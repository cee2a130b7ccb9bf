import LayoutTree.Number.Text
import LayoutTree.Text.Quoted

/-!
JSON values and their texts. Members keep the order in which they are written, and whole numbers
are kept apart from doubles.

All output is ASCII; doubles are written with their shortest digits, and the three values that JSON
has no numeral for are written as words.
-/

namespace LayoutTree

inductive Json where
  | null
  | bool (b : Bool)
  | int (i : Int)
  | number (x : Double)
  | text (t : Text)
  | array (xs : List Json)
  | object (members : List (Text × Json))
deriving Inhabited

/-- The first member with a name. -/
def Json.member? (name : Text) : Json → Option Json
  | .object ms => ms.lookup name
  | _ => none

namespace Json

/-- White space between the parts of a text: all on one line, or one part a line with a unit of
indentation for each level. -/
inductive Layout where
  | line
  | indented (unit : List Char)

namespace Layout

def lineBreak (unit : List Char) (level : Nat) : List Char :=
  '\n' :: (List.replicate level unit).flatten

/-- What follows an opening bracket and precedes a closing one. -/
def edge : Layout → Nat → List Char
  | .line, _ => []
  | .indented unit, level => lineBreak unit level

/-- What separates two elements. -/
def comma : Layout → Nat → List Char
  | .line, _ => [',', ' ']
  | .indented unit, level => ',' :: lineBreak unit level

end Layout

/-- Words for the doubles without a numeral. -/
def numbers : NumberStyle := { NumberStyle.plain with infinity := "Infinity", nan := "NaN" }

def escapeUnit (n : Nat) : List Char := '\\' :: 'u' :: Text.hex 4 n

/-- A code point inside a string. One beyond the first plane is written as a surrogate pair. -/
def escape (n : Nat) : List Char :=
  if n == 0x22 then ['\\', '"']
  else if n == 0x5C then ['\\', '\\']
  else if n == 0x0A then ['\\', 'n']
  else if n == 0x0D then ['\\', 'r']
  else if n == 0x09 then ['\\', 't']
  else if n == 0x08 then ['\\', 'b']
  else if n == 0x0C then ['\\', 'f']
  else if 0x20 ≤ n && n < 0x7F then [Char.ofNat n]
  else if n < 0x10000 then escapeUnit n
  else escapeUnit (0xD800 + (n - 0x10000) / 0x400) ++ escapeUnit (0xDC00 + (n - 0x10000) % 0x400)

def quote (t : Text) : List Char := '"' :: t.points.flatMap escape ++ ['"']

mutual

/-- The text of a value at a level of nesting, in front of the text that follows. -/
def print (layout : Layout) (level : Nat) : Json → List Char → List Char
  | .null, rest => "null".toList ++ rest
  | .bool b, rest => (if b then "true" else "false").toList ++ rest
  | .int i, rest => (toString i).toList ++ rest
  | .number x, rest => (numbers.write x).toList ++ rest
  | .text s, rest => quote s ++ rest
  | .array [], rest => '[' :: ']' :: rest
  | .array (x :: xs), rest =>
    '[' :: (layout.edge (level + 1) ++ print layout (level + 1) x
      (printElements layout (level + 1) xs (layout.edge level ++ ']' :: rest)))
  | .object [], rest => '\x7b' :: '\x7d' :: rest
  | .object ((k, v) :: ms), rest =>
    '\x7b' :: (layout.edge (level + 1) ++ (quote k ++ ':' :: ' ' :: print layout (level + 1) v
      (printMembers layout (level + 1) ms (layout.edge level ++ '\x7d' :: rest))))

/-- Each element after a comma. -/
def printElements (layout : Layout) (level : Nat) : List Json → List Char → List Char
  | [], rest => rest
  | x :: xs, rest =>
    layout.comma level ++ print layout level x (printElements layout level xs rest)

/-- Each member after a comma. -/
def printMembers (layout : Layout) (level : Nat) : List (Text × Json) → List Char → List Char
  | [], rest => rest
  | (k, v) :: ms, rest =>
    layout.comma level ++ (quote k ++ ':' :: ' ' :: print layout level v
      (printMembers layout level ms rest))

end

def render (layout : Layout) (x : Json) : String := String.ofList (print layout 0 x [])

end Json

end LayoutTree
