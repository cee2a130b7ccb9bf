import LayoutTree.Number.Rounding
import LayoutTree.Session.Basic

/-!
Attributes of values: reading and assigning them.

A value has the attributes of its type, then those that a script has attached to it, and then its
methods. Layout values cannot be changed, but for attributes whose names begin with an underscore.
-/

namespace LayoutTree

/-- So many elements of a list, or characters of a text, do not fit into memory any more. -/
def memoryLimit : Nat := 4294967296

/-- Puts elements at the end of a list that has so many already, if memory holds them as well. -/
def extending {α : Type} (held : Nat) (xs : List α) : Except Fault (List α) :=
  if held + xs.length < memoryLimit then .ok xs else .error .outOfMemory

/-- How often something is to be repeated. What is not a whole number is no count, a negative one
counts as none, and there is a limit to what fits into memory. -/
def Value.times (count : Value) : Except Fault Nat :=
  let within (i : Int) : Except Fault Nat :=
    if i < -wordLimit || wordLimit ≤ i then .error .countTooLarge
    else if memoryLimit ≤ i then .error .outOfMemory
    else .ok i.toNat
  match count with
  | .int i => within i
  | .bool b => within (if b then 1 else 0)
  | c => .error (.notCount c.typeName)

/-- Copies of one value side by side. -/
def Value.copies (v count : Value) : Except Fault (List Value) :=
  (List.replicate · v) <$> count.times

/-- The subitems of a host group as laid out: with a count, that many copies of the first. -/
def Value.effectiveSubitems (subitems : List Value) : Value → Except Fault (List Value)
  | .null => .ok subitems
  | count =>
    match subitems with
    | x :: _ => x.copies count
    | [] => .error (.indexOutOfRange "tuple ")

/-- Why a value has no attribute of a name. -/
def Value.noAttribute (v : Value) (name : Text) : Fault :=
  match v with
  | .method .. => .noField "function" name
  | .settingKind k => .noTypeField k.name name
  | v => if v.isRecord then .noRecordField v.typeName name else .noField v.typeName name

/-! ### Builders and composers -/

namespace Box

/-- The attributes of a builder that can only be read. -/
def property? (b : Box) : String → Option Value
  | "layout_size" => some b.size
  | "content_insets" => some b.insets
  | "edge_spacing" => some b.edges
  | name =>
    match b.content, name with
    | .group _ _ children, "children" => some children
    | .group _ space _, "inter_item_spacing" => some space
    | _, _ => none

/-- The attributes of a builder that can be assigned. -/
def stored? (b : Box) : String → Option Value
  | "_size" => some b.size
  | "_insets" => some b.insets
  | "_edges" => some b.edges
  | name =>
    match b.content, name with
    | .item columns, "columns" => some columns
    | .group direction _ _, "direction" => some direction
    | .group _ space _, "_space" => some space
    | .group _ _ children, "_children" => some children
    | _, _ => none

/-- The builder with another value for one of the attributes that can be assigned. -/
def store? (b : Box) (name : String) (x : Value) : Option Box :=
  match name with
  | "_size" => some { b with size := x }
  | "_insets" => some { b with insets := x }
  | "_edges" => some { b with edges := x }
  | name =>
    match b.content, name with
    | .item _, "columns" => some { b with content := .item x }
    | .group _ space children, "direction" => some { b with content := .group x space children }
    | .group direction _ children, "_space" =>
      some { b with content := .group direction x children }
    | .group direction space _, "_children" => some { b with content := .group direction space x }
    | _, _ => none

end Box

namespace Composer

def stored? (c : Composer) : String → Option Value
  | "engine" => some c.engine
  | "config" => some c.config
  | "repeat_items" => some c.repeats
  | _ => none

def store? (c : Composer) (name : String) (x : Value) : Option Composer :=
  match name with
  | "engine" => some { c with engine := x }
  | "config" => some { c with config := x }
  | "repeat_items" => some { c with repeats := x }
  | _ => none

end Composer

/-! ### Reading attributes -/

/-- The attributes of a setting's description. -/
def Setting.infoField? (s : Setting) : String → Option Value
  | "name" => some (.text s.name)
  | "default" => some (.ofSetting s.default)
  | "var_type" => some (.settingKind s.kind)
  | "description" => some (.text s.description)
  | "category" => some (.text s.category)
  | _ => none

/-- The attributes of a value that depend on nothing else. The members of a choice are attributes
of each other. -/
def Value.constant? (v : Value) (name : String) : Option Value :=
  match v, name with
  | .config r, "repeat_identical_items" => some r
  | .engine _ _ label _, "name" => some label
  | .engine _ _ _ supports, "supports_repeated_items" => some (.bool supports)
  | .setting s, "name" => some (.text s.name)
  | .setting s, "value" => some (.settingInfo s)
  | .setting _, _ => .setting <$> Setting.ofName? name
  | .settingInfo s, _ => s.infoField? name
  | .direction d, "name" => some (.text d.name)
  | .direction d, "value" => some (.text d.text)
  | .direction _, _ => .direction <$> Direction.all.find? (·.name == name)
  | .dimensionMode m, "name" => some (.text m.name)
  | .dimensionMode m, "value" => some (.text m.text)
  | .dimensionMode _, _ => .dimensionMode <$> DimensionMode.all.find? (·.name == name)
  | .spacingMode m, "name" => some (.text m.name)
  | .spacingMode m, "value" => some (.text m.text)
  | .spacingMode _, _ => .spacingMode <$> SpacingMode.all.find? (·.name == name)
  | .int i, "real" => some (.int i)
  | .int i, "numerator" => some (.int i)
  | .int _, "imag" => some (.int 0)
  | .int _, "denominator" => some (.int 1)
  | .bool b, "real" => some (.int (if b then 1 else 0))
  | .bool b, "numerator" => some (.int (if b then 1 else 0))
  | .bool _, "imag" => some (.int 0)
  | .bool _, "denominator" => some (.int 1)
  | .float x, "real" => some (.float x)
  | .float _, "imag" => some (.float .zero)
  | .range _, "start" => some (.int 0)
  | .range n, "stop" => some (.int n)
  | .range _, "step" => some (.int 1)
  | v, name => v.fields?.bind (·.get? name)

namespace Run

/-- The attribute of a name that a script has attached to a value. -/
def attached? (v : Value) (name : Text) : Run (Option Value) := do
  match v.identity? with
  | some i => return (← get).attribute? i name
  | none => pure none

def attach (i : Identity) (name : Text) (x : Value) : Run Unit :=
  modify fun s => s.setAttribute i name x

def detach (i : Identity) (name : Text) : Run Unit :=
  modify fun s => s.setAttributes i ((s.attributesOf i).filter (·.1 != name))

/-- The attribute of a name that a value has by its type. -/
def inherent? (v : Value) (name : String) : Run (Option Value) := do
  match v, name with
  | .box _ id, _ =>
    let b ← box id
    return b.property? name <|> b.stored? name
  | .composer id, _ => return (← composer id).stored? name
  | .itemGroup _ _ _ xs n _ _ _, "effective_subitems" =>
    return some (.list (← (Value.effectiveSubitems xs n : Except Fault (List Value))))
  | .logger key, "name" =>
    return some (((← get).attribute? (.logger key) "name").getD (.text key))
  | .logger key, "level" => return some ((← get).loggerLevel key)
  | .logger key, "disabled" =>
    return some (((← get).attribute? (.logger key) "disabled").getD (.bool false))
  | .logger key, "propagate" =>
    return some (((← get).attribute? (.logger key) "propagate").getD (.bool true))
  | _, _ => return v.constant? name

/-- A method bound to the value, if the value has one of that name. -/
def methodOf (v : Value) (name : Text) : Run Value :=
  match name.string? with
  | some n => if v.hasMethod n then pure (.method v n) else throw (v.noAttribute name)
  | none => throw (v.noAttribute name)

/-- The attribute of a value under a name. -/
def field (v : Value) (name : Text) : Run Value := do
  let own ← match name.string? with
    | some n => inherent? v n
    | none => pure none
  match own with
  | some x => pure x
  | none =>
    match ← attached? v name with
    | some x => pure x
    | none => methodOf v name

/-! ### Assigning attributes -/

def assignToBox (v : Value) (id : Nat) (name : Text) (x : Value) : Run Unit := do
  let b ← box id
  match name.string? with
  | some n =>
    if (b.property? n).isSome then throw (.noSetter v.typePath n)
    match b.store? n x with
    | some b => setBox id b
    | none => attach (.box id) name x
  | none => attach (.box id) name x

def assignToComposer (id : Nat) (name : Text) (x : Value) : Run Unit := do
  match name.string?.bind ((← composer id).store? · x) with
  | some c => setComposer id c
  | none => attach (.composer id) name x

/-- Members of choices keep their names and values. -/
def assignToMember (i : Identity) (name : Text) (x : Value) : Run Unit :=
  if name == "name" then throw (.memberField "name")
  else if name == "value" then throw (.memberField "value")
  else attach i name x

/-- What an engine says about itself cannot be changed. A trace engine that can repeat items says
so through an attribute without a name of its own. -/
def assignToEngine (v : Value) (id : Nat) (name : Text) (x : Value) : Run Unit :=
  if name == "name" then throw (.noSetter v.typePath "name")
  else if name == "supports_repeated_items" then
    match v with
    | .engine _ (.trace _) _ true => throw (.noSetter v.typePath none)
    | _ => throw (.noSetter v.typePath "supports_repeated_items")
  else attach (.object id) name x

/-- A layout value takes only attributes whose names begin with an underscore. -/
def assignToRecord (v : Value) (i : Identity) (name : Text) (x : Value) : Run Unit :=
  if name.startsWith "_" then attach i name x
  else throw (.invalid v.typeName [⟨.frozen, [.name name]⟩])

/-- Why a value without an identity takes no attribute of a name. -/
def refuseAttribute (v : Value) (name : Text) : Fault :=
  match name.string?.bind v.constant?, v with
  | some _, .range _ => .readOnly
  | some _, .bool _ => .notWritable "int" name
  | some _, v => .notWritable v.typeName name
  | none, v => .noField v.typeName name

/-- Assigns an attribute of a value. -/
def assign (v : Value) (name : Text) (x : Value) : Run Unit :=
  match v with
  | .box _ id => assignToBox v id name x
  | .composer id => assignToComposer id name x
  | .config _ => throw (.frozenField name)
  | .settingInfo _ => throw (.frozenField name)
  | .settingKind k => throw (.fixedType k.name name)
  | .engine id .. => assignToEngine v id name x
  | .block id _ => attach (.object id) name x
  | .logger key => attach (.logger key) name x
  | .setting s => assignToMember (.member ("EnvVar." ++ s.name)) name x
  | _ =>
    match v.memberName?, v.identity? with
    | some m, _ => assignToMember (.member m) name x
    | none, some i => assignToRecord v i name x
    | none, none => throw (refuseAttribute v name)

/-! ### Calling -/

/-- Calls a value. A type makes the value of that type that another one shows. -/
def call (f : Value) (a : Arguments) : Run Value := do
  match f with
  | .method v name => invoke v name a
  | .block _ body => if a.isEmpty then evaluate body else throw .wrongArguments
  | .settingKind .text =>
    match a.positional with
    | [] => pure (.text "")
    | [v] => return .text (← shown v)
    | _ => throw .wrongArguments
  | .settingKind .flag => return .bool ((a.positional.head?.map (·.isTruthy)).getD false)
  | v => throw (.notCallable v.typeName)

/-- Calls the method of a value, unless a script has put something else in its place. -/
def callMethodOr (v : Value) (name : String) (a : Arguments) (method : Run Value) : Run Value := do
  match ← attached? v name with
  | some f => call f a
  | none => method

/-! ### Logging -/

/-- Whether a logger lets records of a level pass, found out once for each level. Records at the
lowest level pass nowhere. -/
def logsAt (logger : Text) (level : LogLevel) : Run Bool := do
  if (← field (.logger logger) "disabled").isTruthy || level == .notSet then pure false
  else
    let s ← get
    match s.logging.decided.lookup (logger, level) with
    | some b => pure b
    | none =>
      let b ← match Logger.effectiveLevel s.loggerLevel logger with
        | .int i => pure (decide (i ≤ level.number))
        | .bool b => pure (decide ((if b then 1 else 0) ≤ level.number))
        | .float x => pure (x.atMost level.number)
        | v => throw (.notComparable v.typeName)
      modify fun s => { s with logging :=
        { s.logging with decided := ((logger, level), b) :: s.logging.decided } }
      pure b

/-- Records a message if its logger lets it pass. -/
def record (logger : Text) (level : LogLevel) (message : Text) : Run Unit := do
  if ← logsAt logger level then
    modify fun s =>
      let r : LogRecord := ⟨s.loggerShown logger, level, message⟩
      if s.logging.admits (Logger.reached s.handsOn (Logger.line logger)) then
        { s with records := s.records.push r }
      else s

/-- Logs a message through the method of a logger. -/
def log (logger : Text) (level : LogLevel) (message : Text) : Run Unit := do
  let _ ← callMethodOr (.logger logger) level.method ⟨[.text message], []⟩ do
    record logger level message
    pure .null

end Run

end LayoutTree
