import LayoutTree.Json.Printer
import LayoutTree.Session.Attribute

/-!
Values as JSON text.
-/

namespace LayoutTree.Value

mutual

/-- The JSON value of plain data; members of the choices are texts. -/
def toJson : Value → Except Fault Json
  | .null => .ok .null
  | .bool b => .ok (.bool b)
  | .int i => .ok (.int i)
  | .float x => .ok (.number x)
  | .list xs => .array <$> toJsonAll xs
  | .tuple xs => .array <$> toJsonAll xs
  | .dict _ es => .object <$> toJsonEntries es
  | v =>
    match v.text? with
    | some t => .ok (.text t)
    | none => .error (.notSerializable v.typeName)

def toJsonAll : List Value → Except Fault (List Json)
  | [] => .ok []
  | x :: xs => return (← toJson x) :: (← toJsonAll xs)

def toJsonEntries : Fields → Except Fault (List (Text × Json))
  | [] => .ok []
  | (k, v) :: es => return (k, ← toJson v) :: (← toJsonEntries es)

end

/-- The unit of indentation that is asked for: nothing for one line, a count of spaces, or a text
that is the unit itself. -/
def jsonUnit? (indent : Value) : Except Fault (Option Text) :=
  match indent.text? with
  | some unit => .ok (some unit)
  | none =>
    if indent.isNull then .ok none
    else (fun n => some (.plain (String.ofList (List.replicate n ' ')))) <$> indent.times

/-- A JSON text with a unit of indentation. A unit that is no string is put in the place of a
character that is not ASCII, which the text does not contain otherwise. -/
def jsonIndented (unit : Text) (x : Json) : Text :=
  match unit with
  | .plain s => Json.render (.indented s.toList) x
  | .broken points =>
    let mark := '\u0080'
    .ofPoints <| (Json.render (.indented [mark]) x).toList.flatMap fun c =>
      if c == mark then points else [c.toNat]

/-- The JSON text of a value. A text alone is written without regard to the indentation. -/
def jsonText (v indent : Value) : Except Fault Text :=
  match v.text? with
  | some t => .ok (Json.render .line (.text t))
  | none => do
    let unit ← jsonUnit? indent
    let x ← v.toJson
    return match unit with
      | some unit => jsonIndented unit x
      | none => Json.render .line x

end LayoutTree.Value
