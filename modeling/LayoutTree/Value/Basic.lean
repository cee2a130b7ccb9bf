import LayoutTree.Geometry.Size
import LayoutTree.Geometry.Spacing
import LayoutTree.Script.Expr
import LayoutTree.Setting

/-!
The values of layout scripts.

Dimensions, sizes, spacings and insets always hold what they should. The other layout values are
checked when they are made but not when a field is replaced in a copy, so their fields may hold
any value. What a script can tell from its equals has an `id` of its own.
-/

namespace LayoutTree

/-- The two kinds of box builder. -/
inductive BoxKind where
  | item
  | group
deriving DecidableEq, Repr

/-- A host engine: the model engine makes host objects, the descriptor engine makes plain data,
and a trace engine makes a list of what it was asked for and takes a note of every call. Whether
a trace engine can repeat an item is independent of what it says about it. -/
inductive EngineKind where
  | model
  | descriptor
  | trace (implements : Bool)
deriving DecidableEq, Repr

/-- What a cursor runs over: values that are already there, or the body of a generator. -/
inductive CursorKind where
  | iterator
  | generator
deriving DecidableEq, Repr

inductive Value where
  | null
  | bool (b : Bool)
  | int (i : Int)
  | float (x : Double)
  | text (t : Text)
  | bytes (bs : List UInt8)
  | range (stop : Int)
  | list (xs : List Value)
  | tuple (xs : List Value)
  | dict (id : Nat) (entries : List (Text × Value))
  | direction (d : Direction)
  | dimensionMode (m : DimensionMode)
  | spacingMode (m : SpacingMode)
  | dimension (d : Dimension)
  | size (s : LayoutSize)
  | spacing (s : Spacing)
  | insets (i : Insets)
  | edges (id : Nat) (leading top trailing bottom : Value)
  | slot (id : Nat) (kind size insets edges count : Value)
  | group (id : Nat) (kind size insets edges direction spacing children : Value)
  | fragment (id : Nat) (kind items : Value)
  /-- An item of the model engine. -/
  | item (id : Nat) (size : LayoutSize) (insets edges : Value)
  /-- A group of the model engine; with a count it stands for that many copies of its first
  subitem. -/
  | itemGroup (id : Nat) (size : LayoutSize) (direction : Direction) (subitems : List Value)
      (count insets edges spacing : Value)
  | hostSection (id : Nat) (group insets : Value) (spacing : Double)
  | hostLayout (id : Nat) (sections : List Value)
  | box (kind : BoxKind) (id : Nat)
  | cursor (kind : CursorKind) (id : Nat)
  | block (id : Nat) (body : Expr)
  | method (receiver : Value) (name : String)
  /-- An engine, with its name and with whether it says that it can repeat one item. -/
  | engine (id : Nat) (kind : EngineKind) (label : Value) (supports : Bool)
  | composer (id : Nat)
  | config (repeats : Value)
  | setting (s : Setting)
  | settingInfo (s : Setting)
  | settingKind (k : SettingKind)
  | logger (name : Text)
  | token (id : Nat)
  /-- What is left in place of an iteration that failed at a place. -/
  | spent (place : Nat)
  /-- No value: a required field that was never given. -/
  | absent
deriving Inhabited

/-- Values under names. -/
abbrev Fields := List (Text × Value)

namespace Fields

def get? (fs : Fields) (name : Text) : Option Value := fs.lookup name

/-- Puts a value in the place of the one under its name, or after all others. -/
def put (name : Text) (v : Value) : Fields → Fields
  | [] => [(name, v)]
  | f :: fs => if f.1 == name then (f.1, v) :: fs else f :: put name v fs

@[simp] theorem get?_put_self (fs : Fields) (name : Text) (v : Value) :
    (fs.put name v).get? name = some v := by
  induction fs with
  | nil => simp [put, get?]
  | cons f fs ih =>
    obtain ⟨k, w⟩ := f
    by_cases hk : k = name
    · simp [put, get?, hk]
    · have hb : (name == k) = false := by simpa using Ne.symm hk
      simpa [put, get?, hk, List.lookup_cons, hb] using ih

theorem get?_put_of_ne {other name : Text} (h : other ≠ name) (fs : Fields) (v : Value) :
    (fs.put name v).get? other = fs.get? other := by
  induction fs with
  | nil =>
    have hb : (other == name) = false := by simpa using h
    simp [put, get?, List.lookup_cons, hb]
  | cons f fs ih =>
    obtain ⟨k, w⟩ := f
    simp only [get?] at ih
    by_cases hk : k = name
    · subst hk
      have hb : (other == k) = false := by simpa using h
      simp [put, get?, List.lookup_cons, hb]
    · simp [put, get?, hk, List.lookup_cons, ih]

end Fields

namespace Value

def ofBool? : Option Bool → Value
  | some b => .bool b
  | none => .null

def ofSetting : SettingValue → Value
  | .text t => .text t
  | .flag b => .bool b
  | .unset => .null

/-- The text of a text or of a member of one of the choices, which are texts as well. -/
def text? : Value → Option Text
  | .text t => some t
  | .direction d => some d.text
  | .dimensionMode m => some m.text
  | .spacingMode m => some m.text
  | _ => none

/-- The name of a member of a choice of texts, with its class. -/
def memberName? : Value → Option String
  | .direction d => some ("Direction." ++ d.name)
  | .dimensionMode m => some ("DimensionMode." ++ m.name)
  | .spacingMode m => some ("SpacingMode." ++ m.name)
  | _ => none

/-- The name of a value's type. -/
def typeName : Value → String
  | .null => "NoneType"
  | .bool _ => "bool"
  | .int _ => "int"
  | .float _ => "float"
  | .text _ => "str"
  | .bytes _ => "bytes"
  | .range _ => "range"
  | .list _ => "list"
  | .tuple _ => "tuple"
  | .dict .. => "dict"
  | .direction _ => "Direction"
  | .dimensionMode _ => "DimensionMode"
  | .spacingMode _ => "SpacingMode"
  | .dimension _ => "Dimension"
  | .size _ => "LayoutSize"
  | .spacing _ => "Spacing"
  | .insets _ => "Insets"
  | .edges .. => "EdgeSpacing"
  | .slot .. => "Slot"
  | .group .. => "Group"
  | .fragment .. => "Fragment"
  | .item .. => "Item"
  | .itemGroup .. => "ItemGroup"
  | .hostSection .. => "Section"
  | .hostLayout .. => "CompositionalLayout"
  | .box .item _ => "ItemBox"
  | .box .group _ => "GroupBox"
  | .cursor .iterator _ => "list_iterator"
  | .cursor .generator _ => "generator"
  | .block .. => "function"
  | .method .. => "method"
  | .engine _ kind _ _ => match kind with
    | .model => "ModelEngine"
    | .descriptor => "DescriptorEngine"
    | .trace .. => "TraceEngine"
  | .composer .. => "Composer"
  | .config _ => "ComposerConfig"
  | .setting _ => "EnvVar"
  | .settingInfo _ => "EnvConfig"
  | .settingKind _ => "type"
  | .logger name => if name == "root" then "RootLogger" else "Logger"
  | .token _ => "object"
  | .spent _ => "generator"
  | .absent => "NoneType"

/-- The name of a value's type behind the place where the type is made. -/
def typePath : Value → String
  | .engine _ (.trace _) _ _ => "trace_class.<locals>.TraceEngine"
  | v => v.typeName

/-- The fields of a layout value or host object in order, leaving out those never given. -/
def fields? : Value → Option Fields
  | .dimension d => some [("mode", .dimensionMode d.mode), ("value", .float d.value)]
  | .size s => some [("width", .dimension s.width), ("height", .dimension s.height)]
  | .spacing s => some [("mode", .spacingMode s.mode), ("value", .float s.value)]
  | .insets i => some [("top", .float i.top), ("leading", .float i.leading),
      ("bottom", .float i.bottom), ("trailing", .float i.trailing)]
  | .edges _ l t r b => some [("leading", l), ("top", t), ("trailing", r), ("bottom", b)]
  | .slot _ k s i e n => some <| given [("kind", k), ("size", s), ("insets", i),
      ("edge_spacing", e), ("replica_count", n)]
  | .group _ k s i e d g cs => some <| given [("kind", k), ("size", s), ("insets", i),
      ("edge_spacing", e), ("direction", d), ("inter_item_spacing", g), ("children", cs)]
  | .fragment _ k xs => some [("kind", k), ("items", xs)]
  | .item _ s i e => some [("kind", .text "item"), ("layout_size", .size s),
      ("content_insets", i), ("edge_spacing", e)]
  | .itemGroup _ s d xs n i e g => some [("kind", .text "group"), ("layout_size", .size s),
      ("direction", .direction d), ("subitems", .tuple xs), ("repeat_count", n),
      ("content_insets", i), ("edge_spacing", e), ("inter_item_spacing", g)]
  | .hostSection _ g i x => some [("group", g), ("content_insets", i),
      ("inter_group_spacing", .float x)]
  | .hostLayout _ xs => some [("sections", .tuple xs)]
  | _ => none
where
  given (fs : Fields) : Fields :=
    fs.filter fun f => match f.2 with
      | .absent => false
      | _ => true

/-- The value is a layout value or a host object of the model engine. -/
def isRecord (v : Value) : Bool := v.fields?.isSome

/-- The value counts as true where a condition is tested. -/
def isTruthy : Value → Bool
  | .null => false
  | .bool b => b
  | .int i => i != 0
  | .float x => !x.isZero
  | .text t => !t.isEmpty
  | .bytes bs => !bs.isEmpty
  | .range n => 0 < n
  | .list xs => !xs.isEmpty
  | .tuple xs => !xs.isEmpty
  | .dict _ es => !es.isEmpty
  | _ => true

def isNull : Value → Bool
  | .null => true
  | _ => false

/-- The elements of a value that has them by itself: the elements of a container, the keys of a
dict, the numbers of a range or of a byte string, the letters of a text. -/
def elements? : Value → Option (List Value)
  | .list xs => some xs
  | .tuple xs => some xs
  | .dict _ es => some (es.map fun e => .text e.1)
  | .range n => some ((List.range n.toNat).map fun (i : Nat) => .int (i : Int))
  | .bytes bs => some (bs.map fun b => .int b.toNat)
  | v => v.text?.map fun t => t.letters.map .text

end Value

end LayoutTree
