import LayoutTree.Number.Text
import LayoutTree.Text.Quoted
import LayoutTree.Value.Basic

/-!
The written form of values, as messages quote them.

A value is written as an expression that denotes it. Shown on its own a text is just its
characters, a member of a choice is its name, and a layout value is the list of its fields. How a
logger is written depends on the levels at the time, so it is given from outside.
-/

namespace LayoutTree

/-- A value in writing: one piece, or a record of named fields. -/
inductive Writing where
  | piece (t : Text)
  | record (name : String) (fields : List (String × Text))

namespace Writing

def assign (f : String × Text) : Text := f.1 ++ "=" ++ f.2

def text : Writing → Text
  | .piece t => t
  | .record name fs => name ++ "(" ++ Text.join ", " (fs.map assign) ++ ")"

def loose : Writing → Text
  | .piece t => t
  | .record _ fs => Text.join " " (fs.map assign)

end Writing

/-- A member of a choice with its class and its text. -/
def memberWritten (name text : String) : String := "<" ++ name ++ ": " ++ Text.quoted text ++ ">"

def Direction.written (d : Direction) : String := memberWritten ("Direction." ++ d.name) d.text

def DimensionMode.written (m : DimensionMode) : String :=
  memberWritten ("DimensionMode." ++ m.name) m.text

def SpacingMode.written (m : SpacingMode) : String :=
  memberWritten ("SpacingMode." ++ m.name) m.text

def Dimension.writing (d : Dimension) : Writing :=
  .record "Dimension" [("mode", d.mode.written), ("value", d.value.text)]

def LayoutSize.writing (s : LayoutSize) : Writing :=
  .record "LayoutSize" [("width", s.width.writing.text), ("height", s.height.writing.text)]

def Spacing.writing (s : Spacing) : Writing :=
  .record "Spacing" [("mode", s.mode.written), ("value", s.value.text)]

def Insets.writing (i : Insets) : Writing :=
  .record "Insets" [("top", i.top.text), ("leading", i.leading.text), ("bottom", i.bottom.text),
    ("trailing", i.trailing.text)]

def SettingKind.name : SettingKind → String
  | .text => "str"
  | .flag => "bool"

def SettingKind.written (k : SettingKind) : String := "<class \x27" ++ k.name ++ "\x27>"

def SettingValue.written : SettingValue → String
  | .text t => Text.quoted t
  | .flag b => if b then "True" else "False"
  | .unset => "None"

def Setting.writing (s : Setting) : Writing :=
  .record "EnvConfig" [("name", Text.quoted s.name), ("default", s.default.written),
    ("var_type", s.kind.written), ("description", Text.quoted s.description),
    ("category", Text.quoted s.category)]

namespace Value

/-- Elements between brackets; a tuple of one element keeps a comma. -/
def bracketed (xs : List Text) : Text := "[" ++ Text.join ", " xs ++ "]"

def parenthesized : List Text → Text
  | [x] => "(" ++ x ++ ",)"
  | xs => "(" ++ Text.join ", " xs ++ ")"

def braced (es : List (Text × Text)) : Text :=
  "\x7b" ++ Text.join ", " (es.map fun e => Text.quoted e.1 ++ ": " ++ e.2) ++ "\x7d"

/-- The writing of the values that hold no others. -/
def atomWriting : Value → Writing
  | .null => .piece "None"
  | .bool b => .piece (if b then "True" else "False")
  | .int i => .piece (toString i)
  | .float x => .piece x.text
  | .text t => .piece (Text.quoted t)
  | .bytes bs => .piece (Text.quotedBytes bs)
  | .range n => .piece ("range(0, " ++ toString n ++ ")")
  | .direction d => .piece d.written
  | .dimensionMode m => .piece m.written
  | .spacingMode m => .piece m.written
  | .dimension d => d.writing
  | .size s => s.writing
  | .spacing s => s.writing
  | .insets i => i.writing
  | .setting s => .piece ("<EnvVar." ++ s.name ++ ": " ++ s.writing.text ++ ">")
  | .settingInfo s => s.writing
  | .settingKind k => .piece k.written
  | v => .piece ("<" ++ v.typeName ++ " object>")

/-- The fields whose values were given. -/
def given : List (Value × String × Text) → List (String × Text)
  | [] => []
  | (.absent, _) :: fs => given fs
  | (_, f) :: fs => f :: given fs

section Writings

variable (logger : Text → Text)

mutual

def writing : Value → Writing
  | .list xs => .piece (bracketed (writtenAll xs))
  | .tuple xs => .piece (parenthesized (writtenAll xs))
  | .dict _ es => .piece (braced (writtenEntries es))
  | .edges _ l t r b => .record "EdgeSpacing" [("leading", (writing l).text),
      ("top", (writing t).text), ("trailing", (writing r).text), ("bottom", (writing b).text)]
  | .slot _ k s i e n => .record "Slot" <| given [(k, "kind", (writing k).text),
      (s, "size", (writing s).text), (i, "insets", (writing i).text),
      (e, "edge_spacing", (writing e).text), (n, "replica_count", (writing n).text)]
  | .group _ k s i e d g c => .record "Group" <| given [(k, "kind", (writing k).text),
      (s, "size", (writing s).text), (i, "insets", (writing i).text),
      (e, "edge_spacing", (writing e).text), (d, "direction", (writing d).text),
      (g, "inter_item_spacing", (writing g).text), (c, "children", (writing c).text)]
  | .fragment _ k x =>
    .record "Fragment" [("kind", (writing k).text), ("items", (writing x).text)]
  | .item _ s i e => .record "Item" [("kind", Text.quoted "item"),
      ("layout_size", s.writing.text), ("content_insets", (writing i).text),
      ("edge_spacing", (writing e).text)]
  | .itemGroup _ s d xs n i e g => .record "ItemGroup" [("kind", Text.quoted "group"),
      ("layout_size", s.writing.text), ("direction", d.written),
      ("subitems", parenthesized (writtenAll xs)), ("repeat_count", (writing n).text),
      ("content_insets", (writing i).text), ("edge_spacing", (writing e).text),
      ("inter_item_spacing", (writing g).text)]
  | .hostSection _ g i x => .record "Section" [("group", (writing g).text),
      ("content_insets", (writing i).text), ("inter_group_spacing", x.text)]
  | .hostLayout _ xs =>
    .record "CompositionalLayout" [("sections", parenthesized (writtenAll xs))]
  | .config r => .record "ComposerConfig" [("repeat_identical_items", (writing r).text)]
  | .logger name => .piece (logger name)
  | v => atomWriting v

def writtenAll : List Value → List Text
  | [] => []
  | x :: xs => (writing x).text :: writtenAll xs

def writtenEntries : Fields → List (Text × Text)
  | [] => []
  | (k, v) :: es => (k, (writing v).text) :: writtenEntries es

end

/-- The expression that denotes a value. -/
def written (v : Value) : Text := (v.writing logger).text

/-- A value shown on its own. -/
def shown (v : Value) : Text :=
  match v with
  | .text t => t
  | .setting s => "EnvVar." ++ s.name
  | .config _ => v.written logger
  | .settingInfo _ => v.written logger
  | _ =>
    match v.memberName? with
    | some name => name
    | none => (v.writing logger).loose

end Writings

end Value

end LayoutTree
