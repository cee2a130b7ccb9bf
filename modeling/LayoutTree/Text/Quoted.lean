import LayoutTree.Text.Basic
import LayoutTree.Text.Character

/-!
Quoted text: one line of printable characters between quotes, with escapes for the rest.

The quote is an apostrophe unless the text holds apostrophes and no double quote.
-/

namespace LayoutTree.Text

def hexDigit (n : Nat) : Char := Nat.digitChar (n % 16)

/-- The lowest `width` hexadecimal digits of a number. -/
def hex : Nat → Nat → List Char
  | 0, _ => []
  | width + 1, n => hex width (n / 16) ++ [hexDigit n]

def quoteFor (cs : List Char) : Char :=
  if cs.contains '\x27' && !cs.contains '"' then '"' else '\x27'

/-- The short escapes shared by texts and byte strings. -/
def shortEscape? (quote c : Char) : Option (List Char) :=
  if c == quote || c == '\\' then some ['\\', c]
  else if c == '\n' then some ['\\', 'n']
  else if c == '\r' then some ['\\', 'r']
  else if c == '\t' then some ['\\', 't']
  else none

def escapeChar (quote c : Char) : List Char :=
  match shortEscape? quote c with
  | some e => e
  | none =>
    let n := c.toNat
    if isPrintable c then [c]
    else if n < 0x100 then '\\' :: 'x' :: hex 2 n
    else if n < 0x10000 then '\\' :: 'u' :: hex 4 n
    else '\\' :: 'U' :: hex 8 n

/-- Half of a surrogate pair is no character and therefore never printable. -/
def escapePoint (quote : Char) (n : Nat) : List Char :=
  if isScalar n then escapeChar quote (Char.ofNat n) else '\\' :: 'u' :: hex 4 n

def quoted (t : Text) : String :=
  let q := quoteFor (t.points.map Char.ofNat)
  String.ofList (q :: t.points.flatMap (escapePoint q) ++ [q])

def escapeByte (quote : Char) (b : UInt8) : List Char :=
  let c := Char.ofNat b.toNat
  match shortEscape? quote c with
  | some e => e
  | none => if 0x20 ≤ b.toNat && b.toNat < 0x7F then [c] else '\\' :: 'x' :: hex 2 b.toNat

/-- A byte string in quotes after the letter b. -/
def quotedBytes (bs : List UInt8) : String :=
  let q := quoteFor (bs.map fun b => Char.ofNat b.toNat)
  String.ofList ('b' :: q :: bs.flatMap (escapeByte q) ++ [q])

end LayoutTree.Text
