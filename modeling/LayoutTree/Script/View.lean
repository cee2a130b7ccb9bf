import LayoutTree.Script.Run

/-!
What is told of values: JSON with the types of layout values, builders and engines.

A layout value without a required field cannot be told.
-/

namespace LayoutTree

namespace View

/-- Plain data as it is. -/
def plain (v : Value) : Json :=
  match v.toJson with
  | .ok x => x
  | .error _ => .null

def double (x : Double) : Json := .object [("f", .text x.text)]

def member (name : String) : Json := .object [("enum", .text name)]

/-- A value of which only the type is told. -/
def untold (type : String) : Json := .object [("opaque", .text type)]

/-- An object of members in order, or the first fault among them. -/
def object : List (Text × Except Fault Json) → Except Fault Json
  | ms => .object <$> ms.mapM fun m => (m.1, ·) <$> m.2

/-- A layout value with the name of its type. -/
def record (type : String) (ms : List (Text × Except Fault Json)) : Except Fault Json :=
  object (("model", .ok (.text type)) :: ms)

/-- A field that a layout value cannot be without, as it is told. -/
def required (type field : String) (v : Value) (told : Except Fault Json) : Except Fault Json :=
  match v with
  | .absent => .error (.noRecordField type field)
  | _ => told

def dimension (d : Dimension) : Json :=
  .object [("model", .text "Dimension"), ("mode", member ("DimensionMode." ++ d.mode.name)),
    ("value", double d.value)]

def size (s : LayoutSize) : Json :=
  .object [("model", .text "LayoutSize"), ("width", dimension s.width),
    ("height", dimension s.height)]

def spacing (s : Spacing) : Json :=
  .object [("model", .text "Spacing"), ("mode", member ("SpacingMode." ++ s.mode.name)),
    ("value", double s.value)]

def insets (i : Insets) : Json :=
  .object [("model", .text "Insets"), ("top", double i.top), ("leading", double i.leading),
    ("bottom", double i.bottom), ("trailing", double i.trailing)]

def direction (d : Direction) : Json := member ("Direction." ++ d.name)

/-- The description of a setting. -/
def settingInfo (s : Setting) : Json :=
  .object [("name", .text s.name), ("default", plain (.ofSetting s.default)),
    ("var_type", .text s.kind.name), ("description", .text s.description),
    ("category", .text s.category)]

/-- The values that hold no others. -/
def atom (s : Session) : Value → Json
  | .null => .null
  | .bool b => .bool b
  | .int i => .int i
  | .float x => double x
  | .text t => .text t
  | .direction d => direction d
  | .dimensionMode m => member ("DimensionMode." ++ m.name)
  | .spacingMode m => member ("SpacingMode." ++ m.name)
  | .dimension d => dimension d
  | .size s => size s
  | .spacing s => spacing s
  | .insets i => insets i
  | .setting t => .object [("envvar", .text t.name)]
  | .settingInfo t => settingInfo t
  | .logger name => .object [("logger",
      plain ((s.attribute? (.logger name) "name").getD (.text name)))]
  | .engine _ _ label supports => .object [("engine", plain label), ("repeats", .bool supports)]
  | v => untold v.typeName

section Views

variable (s : Session) (deep : Value → Except Fault Json)

/-- What a builder holds. -/
def box (b : Box) : Except Fault Json :=
  match b.content with
  | .item columns => object [("builder", .ok (.text "ItemBox")), ("size", deep b.size),
      ("insets", deep b.insets), ("edges", deep b.edges), ("columns", deep columns)]
  | .group direction space children => object [("builder", .ok (.text "GroupBox")),
      ("size", deep b.size), ("insets", deep b.insets), ("edges", deep b.edges),
      ("direction", deep direction), ("space", deep space), ("children", deep children)]

def composer (c : Composer) : Except Fault Json :=
  object [("composer", deep c.engine), ("config", deep c.config),
    ("repeat_items", deep c.repeats)]

mutual

def value : Value → Except Fault Json
  | .list xs => .array <$> values xs
  | .tuple xs => .array <$> values xs
  | .dict _ es => .object <$> entries es
  | .edges _ l t r b => record "EdgeSpacing" [("leading", value l), ("top", value t),
      ("trailing", value r), ("bottom", value b)]
  | .slot _ k z i e n => record "Slot" [("kind", value k),
      ("size", required "Slot" "size" z (value z)), ("insets", value i), ("edge_spacing", value e),
      ("replica_count", value n)]
  | .group _ k z i e d g cs => record "Group" [("kind", value k),
      ("size", required "Group" "size" z (value z)), ("insets", value i), ("edge_spacing", value e),
      ("direction", value d), ("inter_item_spacing", value g), ("children", value cs)]
  | .fragment _ k xs => record "Fragment" [("kind", value k), ("items", value xs)]
  | .item _ z i e => record "Item" [("kind", .ok (.text "item")), ("layout_size", .ok (size z)),
      ("content_insets", value i), ("edge_spacing", value e)]
  | .itemGroup _ z d xs n i e g => record "ItemGroup" [("kind", .ok (.text "group")),
      ("layout_size", .ok (size z)), ("direction", .ok (direction d)),
      ("subitems", .array <$> values xs), ("repeat_count", value n),
      ("content_insets", value i), ("edge_spacing", value e), ("inter_item_spacing", value g)]
  | .hostSection _ g i x => record "Section" [("group", value g), ("content_insets", value i),
      ("inter_group_spacing", .ok (double x))]
  | .hostLayout _ xs => record "CompositionalLayout" [("sections", .array <$> values xs)]
  | .config r => object [("repeat_identical_items", value r)]
  | .box _ id => match s.boxes[id]? with
    | some b => box deep b
    | none => .ok .null
  | .composer id => match s.composers[id]? with
    | some c => composer deep c
    | none => .ok .null
  | v => .ok (atom s v)
termination_by structural v => v

def values : List Value → Except Fault (List Json)
  | [] => .ok []
  | x :: xs => return (← value x) :: (← values xs)
termination_by structural xs => xs

def entries : Fields → Except Fault (List (Text × Json))
  | [] => .ok []
  | (k, v) :: es => return (k, ← value v) :: (← entries es)
termination_by structural es => es

end

end Views

/-- What is told of a value in which builders and composers are nested so many levels deep. -/
def within (s : Session) : Nat → Value → Except Fault Json
  | 0 => fun _ => .error .tooDeep
  | n + 1 => value s (within s n)

end View

/-- What is told of a value. -/
def Session.view (s : Session) (v : Value) : Except Fault Json :=
  View.within s (s.boxes.size + s.composers.size + 1) v

/-- What is told of the value that a step gave. -/
def Outcome.view (o : Outcome) : Except Fault Json := o.result.bind o.session.view

end LayoutTree
