import LayoutTree.Script.Function.Layout

/-!
The functions for settings and logging.
-/

namespace LayoutTree.Function

open Run

/-! ### Settings -/

def settingNamed : Function := fun a => do
  let v ← a.single
  match v.unhashable? with
  | some type => throw (.unhashable type)
  | none =>
    match v.text?.bind Setting.ofName? with
    | some s => pure (.setting s)
    | none => throw (.missingKey (← shown v))

/-- The text in lower case. -/
def lowered (v : Value) : Run Value := do
  match v with
  | .bytes bs => pure (.bytes bs)
  | .settingKind .text => throw (.unboundMethod "lower")
  | v =>
    match v.text? with
    | some t => return .text t.lower
    | none => callValue (← field v "lower") .none

/-- What a value in lower case is as a flag, without the blanks around it. -/
def flagOf (v : Value) : Run (Option Bool) := do
  match v with
  | .bytes _ => pure none
  | v =>
    match v.text? with
    | some t => return t.string?.bind flagWord?
    | none =>
      match ← callValue (← field v "strip") .none with
      | .text (.plain s) => return flagOfWord? s
      | _ => pure none

def parseFlag (v : Value) : Run (Option Bool) := do flagOf (← lowered v)

/-- A value read as one of a type. The default stands in for null and for what is no flag. -/
def converted (v type default : Value) : Run Value := do
  if v.isNull then pure default
  else
    match type with
    | .settingKind .flag => return ((← parseFlag v).map .bool).getD default
    | _ => pure v

/-- The type of a name. -/
def typeNamed (name : Text) : Value :=
  if name == "bool" then .settingKind .flag
  else if name == "str" then .settingKind .text
  else .null

def convertValue : Function := fun a => do
  converted (← a.required 0 "value") (typeNamed (← a.text 1 "type")) (a.orNull 2 "default")

/-! ### The environment -/

/-- The first half of a surrogate pair that stands for nothing, and the places of the first and
the last of the halves in a row that begin with it. -/
def strayHalves? : Nat → List Nat → Option (Nat × Nat × Nat)
  | _, [] => none
  | i, n :: ns =>
    if Text.isScalar n || Text.isStrayByte n then strayHalves? (i + 1) ns
    else some (n, i, i + (ns.takeWhile fun m => !Text.isScalar m).length)

/-- A text that can be in the environment. -/
def variableText (v : Value) : Run Text :=
  match v.text? with
  | none => throw (.notText v.typeName)
  | some t =>
    match strayHalves? 0 t.points with
    | some (point, first, last) => throw (.notEncodable point first last)
    | none => pure t

def setEnvironment : Function := fun a => do
  let name ← variableText (← a.required 0 "name")
  let text ← variableText (← a.required 1 "text")
  if name.points.contains 0 || text.points.contains 0 then throw .nullCharacter
  if name.points.contains '='.toNat then throw .badVariable
  if name.isEmpty then throw .noVariable
  modify fun s => { s with environment := s.environment.set name text }
  pure .null

def unsetEnvironment : Function := fun a => do
  let name ← variableText (← a.required 0 "name")
  modify fun s => { s with environment := s.environment.unset name }
  pure .null

/-- The value of a setting unless it is overridden. What describes no setting is refused, but only
after the override. -/
def settingValue : Function := fun a => do
  let info ← field (← a.required 0 "env_var") "value"
  let override := a.orNull 1 "override"
  if !override.isNull then pure override
  else
    let name ← variableText (← field info "name")
    let raw := (((← get).environment.get? name).map .text).getD .null
    let type ← field info "var_type"
    converted raw type (← field info "default")

/-- All settings, or those of one category. -/
def listSettings : Function := fun a =>
  let category := a.orNull 0 "category"
  pure <| .list <| (Setting.all.filter fun s =>
    category.isNull || category.equals (.text s.category)).map .setting

def defaultEngineName : Function := fun a => do
  let override := a.orNull 0 "override"
  if override.isNull then return .ofSetting (← setting .engine) else pure override

/-- The name of the log level in the settings, in upper case. -/
def logLevelName : Run Value := do
  return .text (← shown (.ofSetting (← setting .logLevel))).upper

def settings : List (String × Function) := [
  ("EnvVar", settingNamed),
  ("get_environment", settingValue),
  ("get_environment_info", fun a => do field (← a.required 0 "env_var") "value"),
  ("list_environment_variables", listSettings),
  ("get_default_engine_name", defaultEngineName),
  ("get_repeat_items_preference", fun _ => return .ofSetting (← setting .repeatItems)),
  ("get_log_level", fun _ => logLevelName),
  ("parse_bool", fun a => do return .ofBool? (← parseFlag (← a.single))),
  ("convert_value", convertValue),
  ("setenv", setEnvironment),
  ("unsetenv", unsetEnvironment)]

/-! ### Logging -/

/-- The logger that is meant; without a name, the logger of the library. A logger keeps the name
under which it was first asked for, which may be a member of a choice. -/
def loggerOf (v : Value) : Run Text := do
  if !v.isTruthy then pure "layoutbox"
  else
    match v.text? with
    | none => throw .notLoggerName
    | some name => do
      if !(← get).loggers.contains name then
        modify fun s => { s with loggers := name :: s.loggers }
        if v.memberName?.isSome then attach (.logger name) "name" v
      pure name

/-- Configures logging with a level, or with the level from the settings, and answers the root
level. -/
def setupLogging : Function := fun a => do
  let level := a.orNull 0 "level"
  let level ← if level.isNull then logLevelName else pure level
  let s ← get
  let (outcome, logging) := s.logging.configure s.loggerWritten level
  set { s with logging }
  (outcome : Except Fault Unit)
  if !s.logging.handler then detach (.logger Logger.root) "level"
  return (← get).loggerLevel Logger.root

/-- Logs a message under the name of a level. -/
def logMessage : Function := fun a => do
  let logger ← loggerOf (← a.required 0 "name")
  let level ← a.text 1 "level"
  let message ← a.required 2 "message"
  match LogLevel.ofName? level with
  | some level =>
    callMethodOr (.logger logger) "log" ⟨[.int level.number, message], []⟩ do
      record logger level (← shown message)
      pure .null
  | none => pure .null

def logging : List (String × Function) := [
  ("get_logger", fun a => do return .logger (← loggerOf (a.orNull 0 "name"))),
  ("setup_logging", setupLogging),
  ("log", logMessage),
  ("root_level", fun _ => return (← get).loggerLevel Logger.root)]

def environment : List (String × Function) := settings ++ logging

end LayoutTree.Function
