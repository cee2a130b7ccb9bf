import LayoutTree.Number.Rounding
import LayoutTree.Text.Character

/-!
Numerals: the texts that denote numbers.

A double may have blanks around it, or single underscores anywhere inside it, but not both. An
integer may have both, and besides a plus sign, an empty fraction part and leading zeros with
underscores between them; a text with nothing of the kind is in its canonical form.
-/

namespace LayoutTree.Numeral

/-! ### Digits -/

def signed : List Char → Bool × List Char
  | '-' :: r => (true, r)
  | '+' :: r => (false, r)
  | r => (false, r)

def value (ds : List Char) : Nat := ds.foldl (fun n c => 10 * n + (c.toNat - '0'.toNat)) 0

/-- Two underscores stand side by side. -/
def hasDoubleUnderscore : List Char → Bool
  | '_' :: '_' :: _ => true
  | _ :: r => hasDoubleUnderscore r
  | [] => false

/-- The characters without their underscores, each of which must stand alone between two others. -/
def joined? (cs : List Char) : Option (List Char) :=
  if cs.head? == some '_' || cs.getLast? == some '_' || hasDoubleUnderscore cs then none
  else some (cs.filter (· != '_'))

/-! ### Doubles -/

/-- An exponent part, or nothing. -/
def exponent? : List Char → Option Int
  | [] => some 0
  | c :: r =>
    let (negative, ds) := signed r
    if (c == 'e' || c == 'E') && !ds.isEmpty && ds.all Char.isDigit then
      some (if negative then -(value ds : Int) else value ds)
    else none

/-- A decimal without its sign: digits on at least one side of an optional point, then an
optional exponent. -/
def decimal? (negative : Bool) (cs : List Char) : Option Double :=
  let whole := cs.takeWhile Char.isDigit
  let rest := cs.dropWhile Char.isDigit
  let (part, rest) := match rest with
    | '.' :: r => (r.takeWhile Char.isDigit, r.dropWhile Char.isDigit)
    | r => ([], r)
  if whole.isEmpty && part.isEmpty then none
  else (exponent? rest).map fun e =>
    Double.ofDecimal negative (value (whole ++ part)) (e - part.length)

/-- A decimal with its sign or, in any letter case, `inf`, `infinity` or `nan`. A not-a-number is
read without a tag of its own. -/
def unspaced? (cs : List Char) : Option Double :=
  let (negative, cs) := signed cs
  let word := String.ofList (cs.map Char.toLower)
  if word == "inf" || word == "infinity" then some (.infinite negative)
  else if word == "nan" then some (.nan 0)
  else decimal? negative cs

/-- Reads a double. -/
def double? (s : String) : Option Double :=
  unspaced? (Text.strip Text.isBlank s.toList) <|> (joined? s.toList).bind unspaced?

/-! ### Integers -/

/-- The most digits that an integer may have. -/
def maxDigits : Nat := 4300

/-- An integer in canonical form: an optional minus sign and digits, of which the first is a zero
only if it is the only one. -/
def canonical? (cs : List Char) : Option Int :=
  let (negative, ds) := match cs with
    | '-' :: r => (true, r)
    | r => (false, r)
  if ds.isEmpty || !ds.all Char.isDigit || maxDigits < ds.length
      || (ds.head? == some '0' && ds != ['0']) then none
  else some (if negative then -(value ds : Int) else value ds)

/-- The text begins with an integer in canonical form but for having too many digits. -/
def isOverlong (s : String) : Bool :=
  let ds := match s.toList with
    | '-' :: r => r
    | r => r
  ds.head? != some '0' && maxDigits < (ds.takeWhile Char.isDigit).length

/-- Drops a fraction part that is a point with zeros after it. -/
def withoutEmptyFraction (cs : List Char) : List Char :=
  match cs.dropWhile (· != '.') with
  | '.' :: z :: r => if (z :: r).all (· == '0') then cs.takeWhile (· != '.') else cs
  | _ => cs

/-- Drops leading zeros, and underscores between and after them, in front of another digit or of
a minus sign. Of zeros and underscores alone the last character stays. -/
def withoutZeros? : List Char → Option (List Char)
  | '0' :: r =>
    match r.dropWhile (fun c => c == '0' || c == '_') with
    | [] => some [r.getLast?.getD '0']
    | c :: r => if c.isDigit || c == '-' then some (c :: r) else none
  | c :: r => if c.isDigit then some (c :: r) else none
  | [] => none

/-- An unsigned integer with everything dropped that the canonical form does not have. -/
def tidied? (cs : List Char) : Option (List Char) :=
  (withoutZeros? (withoutEmptyFraction cs)).map fun cs => (joined? cs).getD cs

/-- Reads an integer. -/
def int? (s : String) : Option Int :=
  canonical? s.toList <|> match Text.strip Text.isBlank s.toList with
    | '-' :: r => (tidied? r).bind fun cs => canonical? ('-' :: cs)
    | '+' :: r => (tidied? r).bind canonical?
    | r => (tidied? r).bind canonical?

end LayoutTree.Numeral
