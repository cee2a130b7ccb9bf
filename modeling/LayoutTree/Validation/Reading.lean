import LayoutTree.Number.Numeral
import LayoutTree.Validation.Issue
import LayoutTree.Value.Basic

/-!
Reading a value as one of the types of the library.

Either the value is read, and it is known how many fields were given in the dicts it was read from
and how exactly it is of the type, or every issue is reported. Readings are combined so that the
issues of all parts are kept in order. What is made by a reading is told from its equals, so
readings hand on the next free identity.
-/

namespace LayoutTree

/-- How exactly a value is of the type it is read as: it is, or it is made from a dict or from a
number of another type, or it has to be converted. -/
inductive Exactness where
  | converted
  | widened
  | exact
deriving DecidableEq, Repr

namespace Exactness

def rank : Exactness → Nat
  | .converted => 0
  | .widened => 1
  | .exact => 2

/-- The exactness of two parts together. -/
def both (a b : Exactness) : Exactness := if a.rank ≤ b.rank then a else b

end Exactness

inductive Verdict (α : Type) where
  | read (value : α) (given : Nat) (exactness : Exactness)
  | refused (issues : List Issue)

namespace Verdict

variable {α β : Type}

def map (f : α → β) : Verdict α → Verdict β
  | .read a n e => .read (f a) n e
  | .refused is => .refused is

/-- Both parts are read, or the issues of the first are followed by those of the second. -/
def both : Verdict (α → β) → Verdict α → Verdict β
  | .read f m d, .read a n e => .read (f a) (m + n) (d.both e)
  | .read .., .refused is => .refused is
  | .refused is, .read .. => .refused is
  | .refused is, .refused js => .refused (is ++ js)

/-- The verdict on a part, seen from one step further out. -/
def under (step : Step) : Verdict α → Verdict α
  | .read a n e => .read a n e
  | .refused is => .refused (is.map (Issue.under step))

/-- The verdict on a field that was given. -/
def given (name : String) : Verdict α → Verdict α
  | .read a n e => .read a (n + 1) e
  | v => v.under (.name name)

/-- What was read is refused if it does not do. -/
def check (ok : α → Bool) (kind : IssueKind) : Verdict α → Verdict α
  | .read a n e => if ok a then .read a n e else .refused [⟨kind, []⟩]
  | v => v

/-- What was read is at most so exact. -/
def atMost (bound : Exactness) : Verdict α → Verdict α
  | .read a n e => .read a n (bound.both e)
  | v => v

/-- The verdict with more fields given, of two with equally many the more exact one, and otherwise
the first; or all issues. -/
def better : Verdict α → Verdict α → Verdict α
  | .read a m d, .read b n e =>
    if m < n || (m == n && d.rank < e.rank) then .read b n e else .read a m d
  | .read a m d, .refused _ => .read a m d
  | .refused _, .read b n e => .read b n e
  | .refused is, .refused js => .refused (is ++ js)

end Verdict

/-- A reading, started with the next free identity. -/
def Reading (α : Type) : Type := Nat → Verdict α × Nat

namespace Reading

variable {α β : Type}

instance : Applicative Reading where
  pure a := fun t => (.read a 0 .exact, t)
  map f r := fun t =>
    let p := r t
    (p.1.map f, p.2)
  seq f r := fun t =>
    let p := f t
    let q := r () p.2
    (p.1.both q.1, q.2)

@[simp] theorem pure_apply (a : α) (t : Nat) :
    (pure a : Reading α) t = (.read a 0 .exact, t) := rfl

@[simp] theorem map_apply (f : α → β) (r : Reading α) (t : Nat) :
    (f <$> r) t = ((r t).1.map f, (r t).2) := rfl

@[simp] theorem seq_apply (f : Reading (α → β)) (r : Reading α) (t : Nat) :
    (f <*> r) t = ((f t).1.both (r (f t).2).1, (r (f t).2).2) := rfl

def refuse (kind : IssueKind) : Reading α := fun t => (.refused [⟨kind, []⟩], t)

/-- A new identity. -/
def identity : Reading Nat := fun t => (.read t 0 .exact, t + 1)

/-- A reading whose verdict is seen in another way. -/
def judged (f : Verdict α → Verdict β) (r : Reading α) : Reading β :=
  fun t =>
    let p := r t
    (f p.1, p.2)

def under (step : Step) (r : Reading α) : Reading α := r.judged (.under step)

def given (name : String) (r : Reading α) : Reading α := r.judged (.given name)

def check (ok : α → Bool) (kind : IssueKind) (r : Reading α) : Reading α :=
  r.judged (.check ok kind)

def atMost (bound : Exactness) (r : Reading α) : Reading α := r.judged (.atMost bound)

/-- The identity of a value that is made from a dict, and so is not exactly what was given. -/
def made : Reading Nat := atMost .widened identity

/-- A value that is taken for another. -/
def converted (a : α) : Reading α := atMost .converted (pure a)

/-- A double, with a tag of its own if it is not a number. -/
def tagged : Double → Reading Double
  | .nan _ => Double.nan <$> identity
  | x => pure x

def required (fs : Fields) (name : String) (r : Value → Reading α) : Reading α :=
  match fs.get? name with
  | some v => (r v).given name
  | none => (refuse .missing).under (.name name)

def withDefault (fs : Fields) (name : String) (default : Reading α) (r : Value → Reading α) :
    Reading α :=
  match fs.get? name with
  | some v => (r v).given name
  | none => default

/-- A value that may be null. -/
def orNull (r : Value → Reading Value) : Value → Reading Value
  | .null => pure .null
  | v => r v

/-- The best of several readings, or the issues of all under the names of the types that were
tried. -/
def choose : List (String × Reading α) → Reading α
  | [] => fun t => (.refused [], t)
  | (name, r) :: rs => fun t =>
    let first := r.under (.name name) t
    let rest := choose rs first.2
    (first.1.better rest.1, rest.2)

end Reading

/-! ### Numbers, choices and texts -/

namespace Value

open Reading

variable {α : Type}

/-- The text of a value that is read from a text: of a text, of a member of a choice, or of a byte
string. What is wrong with a byte string that holds no text depends on what is read. -/
def legible? (unreadable : IssueKind) : Value → Option (Except IssueKind String)
  | .bytes bs => some <| match String.fromUTF8? (ByteArray.mk bs.toArray) with
    | some s => .ok s
    | none => .error unreadable
  | v => v.text?.map fun t => match t.string? with
    | some s => .ok s
    | none => .error .notText

/-- Reads what is written in a value, or else refuses the value for its type. -/
def fromText (wrongType wrongText : IssueKind) (r : String → Reading α) (v : Value) : Reading α :=
  match v.legible? wrongText with
  | some (.ok s) => (r s).atMost .converted
  | some (.error kind) => refuse kind
  | none => refuse wrongType

def number : Value → Reading Double
  | .float x => pure x
  | .bool b => converted (Double.ofInt (if b then 1 else 0))
  | .int i => (check Double.isFinite .notNumber (pure (Double.ofInt i))).atMost .widened
  | v => v.fromText .notNumber .notNumeral fun s =>
    (Numeral.double? s).elim (refuse .notNumeral) tagged

/-- A double is taken for a whole number only inside the range of 64 bits. -/
def wholeOfDouble (x : Double) : Reading Int :=
  if !x.isFinite then refuse .notFinite
  else
    match x.toInt? with
    | some i => check (fun i => -wordLimit < i && i < wordLimit) .tooLarge (converted i)
    | none => refuse .fractional

/-- A whole number in writing. -/
def wholeOfText (s : String) : Reading Int :=
  if Numeral.isOverlong s then refuse .tooLarge
  else (Numeral.int? s).elim (refuse .notWholeNumeral) pure

/-- A whole number. A member of a choice stands for its value, whatever that is: the value of a
setting is its description. -/
def whole : Value → Reading Value
  | .int i => pure (.int i)
  | .bool b => converted (.int (if b then 1 else 0))
  | .float x => .int <$> wholeOfDouble x
  | .setting s => converted (.settingInfo s)
  | v => .int <$> v.fromText .notWhole .notWholeNumeral wholeOfText

/-- The value is a whole number from one on. -/
def isPositive : Value → Bool
  | .int i => 1 ≤ i
  | _ => false

/-- A whole number of copies. -/
def count : Value → Reading Value
  | .setting _ => refuse .tooLarge
  | v => check isPositive .tooSmall v.whole

/-- A member of a choice, or its text. -/
def member (ofText? : Text → Option α) (v : Value) : Reading α :=
  v.fromText .notMember .notMember fun s => (ofText? s).elim (refuse .notMember) pure

def readDirection : Value → Reading Direction
  | .direction d => pure d
  | v => v.member Direction.ofText?

def readDimensionMode : Value → Reading DimensionMode
  | .dimensionMode m => pure m
  | v => v.member DimensionMode.ofText?

def readSpacingMode : Value → Reading SpacingMode
  | .spacingMode m => pure m
  | v => v.member SpacingMode.ofText?

/-- Exactly one text. -/
def word (expected : String) : Value → Reading Value
  | .text (.plain s) => if s == expected then pure (.text s) else refuse .notLiteral
  | .text (.broken _) => refuse .notText
  | _ => refuse .notLiteral

end Value

end LayoutTree
