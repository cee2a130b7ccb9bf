import LayoutTree.Json.Printer
import LayoutTree.Number.Numeral

/-!
Reading JSON text: RFC 8259 and the words `NaN`, `Infinity` and `-Infinity`.

A numeral without fraction and exponent denotes a whole number. Every step takes at least one
character off the text, so its length bounds the depth of the calls.
-/

namespace LayoutTree.Json

def isSpace (c : Char) : Bool := c == ' ' || c == '\t' || c == '\n' || c == '\r'

def skipSpace (cs : List Char) : List Char := cs.dropWhile isSpace

/-- The text after a word. -/
def after? : List Char → List Char → Option (List Char)
  | [], cs => some cs
  | w :: ws, c :: cs => if w == c then after? ws cs else none
  | _ :: _, [] => none

def hexValue? (c : Char) : Option Nat :=
  let n := c.toNat
  if 0x30 ≤ n && n ≤ 0x39 then some (n - 0x30)
  else if 0x41 ≤ n && n ≤ 0x46 then some (n - 0x37)
  else if 0x61 ≤ n && n ≤ 0x66 then some (n - 0x57)
  else none

/-- Four hexadecimal digits. -/
def unit? : List Char → Option (Nat × List Char)
  | a :: b :: c :: d :: r => do
    let n := (← hexValue? a) * 0x1000 + (← hexValue? b) * 0x100 + (← hexValue? c) * 0x10
      + (← hexValue? d)
    some (n, r)
  | _ => none

/-- The code point of an escaped unit, joined with a second one if they form a surrogate pair. -/
def unescapeUnit? (cs : List Char) : Option (Nat × List Char) := do
  let (n, r) ← unit? cs
  if 0xD800 ≤ n && n < 0xDC00 then
    match r with
    | '\\' :: 'u' :: r' =>
      let (m, r'') ← unit? r'
      if 0xDC00 ≤ m && m < 0xE000 then
        some (0x10000 + (n - 0xD800) * 0x400 + (m - 0xDC00), r'')
      else some (n, r)
    | _ => some (n, r)
  else some (n, r)

def unescape? : List Char → Option (Nat × List Char)
  | 'u' :: r => unescapeUnit? r
  | 'n' :: r => some (0x0A, r)
  | 'r' :: r => some (0x0D, r)
  | 't' :: r => some (0x09, r)
  | 'b' :: r => some (0x08, r)
  | 'f' :: r => some (0x0C, r)
  | c :: r => if c == '"' || c == '\\' || c == '/' then some (c.toNat, r) else none
  | [] => none

/-- The code points of a string up to its closing quote, in front of those read so far. -/
def string? : Nat → List Nat → List Char → Option (Text × List Char)
  | 0, _, _ => none
  | n + 1, read, cs =>
    match cs with
    | [] => none
    | '"' :: r => some (Text.ofPoints read.reverse, r)
    | '\\' :: r =>
      match unescape? r with
      | some (p, r') => string? n (p :: read) r'
      | none => none
    | c :: r => if c.toNat < 0x20 then none else string? n (c.toNat :: read) r

/-- A run of digits without a leading zero, unless it is the zero alone. -/
def whole? (cs : List Char) : Option (List Char × List Char) :=
  let ds := cs.takeWhile Char.isDigit
  match ds with
  | [] => none
  | '0' :: _ :: _ => none
  | _ => some (ds, cs.dropWhile Char.isDigit)

/-- A fraction part with its digits, or nothing. -/
def fraction? : List Char → Option (List Char × List Char)
  | '.' :: r =>
    let ds := r.takeWhile Char.isDigit
    if ds.isEmpty then none else some (ds, r.dropWhile Char.isDigit)
  | r => some ([], r)

/-- An exponent part with its value, or nothing. -/
def power? : List Char → Option (Option Int × List Char)
  | c :: r =>
    if c == 'e' || c == 'E' then
      let (negative, r) := Numeral.signed r
      let ds := r.takeWhile Char.isDigit
      if ds.isEmpty then none
      else
        let n := Numeral.value ds
        some (some (if negative then -(n : Int) else n), r.dropWhile Char.isDigit)
    else some (none, c :: r)
  | [] => some (none, [])

def numeral? (negative : Bool) (cs : List Char) : Option (Json × List Char) := do
  let (ds, r) ← whole? cs
  let (fs, r) ← fraction? r
  let (e, r) ← power? r
  if fs.isEmpty && e.isNone then
    let n := Numeral.value ds
    some (.int (if negative then -(n : Int) else n), r)
  else some (.number (Double.ofDecimal negative (Numeral.value (ds ++ fs))
    (e.getD 0 - fs.length)), r)

mutual

def value? : Nat → List Char → Option (Json × List Char)
  | 0, _ => none
  | n + 1, cs =>
    match skipSpace cs with
    | 'n' :: r => (after? "ull".toList r).map (Json.null, ·)
    | 't' :: r => (after? "rue".toList r).map (Json.bool true, ·)
    | 'f' :: r => (after? "alse".toList r).map (Json.bool false, ·)
    | 'N' :: r => (after? "aN".toList r).map (Json.number (.nan 0), ·)
    | 'I' :: r => (after? "nfinity".toList r).map (Json.number (.infinite false), ·)
    | '-' :: 'I' :: r => (after? "nfinity".toList r).map (Json.number (.infinite true), ·)
    | '-' :: r => numeral? true r
    | '"' :: r => (string? n [] r).map fun (s, r) => (.text s, r)
    | '[' :: r =>
      match skipSpace r with
      | ']' :: r => some (.array [], r)
      | r => (elements? n r).map fun (xs, r) => (.array xs, r)
    | '\x7b' :: r =>
      match skipSpace r with
      | '\x7d' :: r => some (.object [], r)
      | r => (members? n r).map fun (ms, r) => (.object ms, r)
    | r => numeral? false r

/-- One or more elements and the closing bracket. -/
def elements? : Nat → List Char → Option (List Json × List Char)
  | 0, _ => none
  | n + 1, cs => do
    let (x, r) ← value? n cs
    match skipSpace r with
    | ',' :: r => (elements? n r).map fun (xs, r) => (x :: xs, r)
    | ']' :: r => some ([x], r)
    | _ => none

/-- One or more members and the closing brace. -/
def members? : Nat → List Char → Option (List (Text × Json) × List Char)
  | 0, _ => none
  | n + 1, cs =>
    match skipSpace cs with
    | '"' :: r => do
      let (k, r) ← string? n [] r
      match skipSpace r with
      | ':' :: r =>
        let (v, r) ← value? n r
        match skipSpace r with
        | ',' :: r => (members? n r).map fun (ms, r) => ((k, v) :: ms, r)
        | '\x7d' :: r => some ([(k, v)], r)
        | _ => none
      | _ => none
    | _ => none

end

/-- Reads a whole text. -/
def read? (cs : List Char) : Option Json :=
  match value? (2 * cs.length + 2) cs with
  | some (x, r) => if (skipSpace r).isEmpty then some x else none
  | none => none

end LayoutTree.Json
