import LayoutTree.Fault
import LayoutTree.Number.Rounding
import LayoutTree.Text.Case
import LayoutTree.Text.Character
import LayoutTree.Value.Written

/-!
Log records, and the configuration that decides which of them are written.

Without a stream the records of the builders and of the composer are kept. With a stream a record
is written as a line as soon as there is a handler, if its level is not below that of its logger.
A logger without a level has that of the next logger above it, and in the end the root level.
-/

namespace LayoutTree

inductive LogLevel where
  | notSet
  | debug
  | info
  | warning
  | error
  | critical
deriving DecidableEq, Repr

namespace LogLevel

def all : List LogLevel := [.notSet, .debug, .info, .warning, .error, .critical]

def number : LogLevel → Int
  | .notSet => 0
  | .debug => 10
  | .info => 20
  | .warning => 30
  | .error => 40
  | .critical => 50

def name : LogLevel → String
  | .notSet => "NOTSET"
  | .debug => "DEBUG"
  | .info => "INFO"
  | .warning => "WARNING"
  | .error => "ERROR"
  | .critical => "CRITICAL"

/-- The method of a logger that logs at a level. The lowest level has none of its own. -/
def method : LogLevel → String
  | .notSet => "log"
  | .debug => "debug"
  | .info => "info"
  | .warning => "warning"
  | .error => "error"
  | .critical => "critical"

/-- The level of a name or of one of the other names in use. -/
def ofName? (t : Text) : Option LogLevel :=
  if t == "FATAL" then some .critical
  else if t == "WARN" then some .warning
  else all.find? (·.name == t)

end LogLevel

structure LogRecord where
  logger : Text
  level : LogLevel
  message : Text
deriving DecidableEq, Repr

namespace LogRecord

/-- What is written to a stream behind the time. -/
def written (r : LogRecord) : Text := r.logger ++ " - " ++ r.level.name ++ " - " ++ r.message

/-- How a time is written in front of a record, with a zero for each digit. -/
def timeShape : List Nat := "0000-00-00 00:00:00,000 - ".toList.map Char.toNat

/-- What follows a time of some shape. -/
def afterTime? : List Nat → List Nat → Option (List Nat)
  | [], ns => some ns
  | _ :: _, [] => none
  | m :: shape, n :: ns =>
    if m == n || (m == '0'.toNat && Text.isDigit n) then afterTime? shape ns else none

/-- A line without the time in front of it, if there is one. -/
def withoutTime (line : Text) : Text := ((afterTime? timeShape line.points).map .ofPoints).getD line

/-- The lines that a record makes on a stream, without times. Only the first one has the time of
the record, but a message may have times of its own. -/
def lines (r : LogRecord) : List Text :=
  match r.written.splitAt '\n'.toNat with
  | [] => []
  | first :: others => first :: others.map withoutTime

end LogRecord

/-- The root level: a number, or a flag that counts as zero or one. -/
inductive RootLevel where
  | number (i : Int)
  | flag (b : Bool)
deriving DecidableEq, Repr

namespace RootLevel

def toValue : RootLevel → Value
  | .number i => .int i
  | .flag b => .bool b

/-- The root level that a value asks for; a name may be written in any letter case. -/
def ofValue (logger : Text → Text) : Value → Except Fault RootLevel
  | .int i => .ok (.number i)
  | .bool b => .ok (.flag b)
  | v =>
    match v.text? with
    | some t =>
      match LogLevel.ofName? (Text.upper t) with
      | some l => .ok (.number l.number)
      | none => .error (.unknownLevel (Text.quoted (Text.upper t)))
    | none => .error (.notLevel (v.written logger))

end RootLevel

/-! ### Levels of loggers -/

namespace Logger

def root : Text := "root"

/-- The names above a name, whose code points are given from the last to the first. Each of them
ends before a dot. A dot in front of the whole name does not count, nor does one that comes right
before a dot that counts. -/
def above (afterDot : Bool) : List Nat → List Text
  | [] => []
  | c :: cs =>
    if afterDot || c != '.'.toNat then above false cs
    else if cs.isEmpty then []
    else .ofPoints cs.reverse :: above true cs

/-- A logger with all those above it, up to the root. -/
def line (name : Text) : List Text :=
  if name == root then [root] else name :: above false name.points.reverse ++ [root]

/-- The loggers of a line that a record comes to, if it is handed on by some of them only. -/
def reached (handsOn : Text → Bool) : List Text → List Text
  | [] => []
  | l :: ls => if handsOn l then l :: reached handsOn ls else [l]

/-- The name of a level, or the number of a name. -/
def levelText (level : Value) : Text :=
  let number? : Option Int := match level with
    | .int i => some i
    | .bool b => some (if b then 1 else 0)
    | .float x => x.toInt?
    | _ => none
  match number?.bind fun i => LogLevel.all.find? (·.number == i) with
  | some l => l.name
  | none =>
    match level.text?.bind LogLevel.ofName? with
    | some l => toString l.number
    | none => "Level " ++ level.shown id

/-- The level of the first logger that has one. -/
def effectiveLevel (level : Text → Value) (name : Text) : Value :=
  (((line name).map level).find? (·.isTruthy)).getD (.int 0)

/-- A logger's name with its type and its level. -/
def written (level : Text → Value) (shown : Text → Text) (name : Text) : Text :=
  "<" ++ (Value.logger name).typeName ++ " " ++ shown name ++ " ("
    ++ levelText (effectiveLevel level name) ++ ")>"

end Logger

structure Logging where
  /-- Records are written to a stream. -/
  stream : Bool
  /-- The stream has its handler. -/
  handler : Bool
  level : RootLevel
  /-- What was found out about which loggers log at which levels. -/
  decided : List ((Text × LogLevel) × Bool)
deriving DecidableEq, Repr

namespace Logging

def initial (stream : Bool) : Logging := ⟨stream, false, .number 30, []⟩

/-- Installs the handler and then sets the level; the handler stays when the level is refused.
With a handler in place nothing happens. -/
def configure (l : Logging) (logger : Text → Text) (level : Value) :
    Except Fault Unit × Logging :=
  if l.handler then (.ok (), l)
  else
    match RootLevel.ofValue logger level with
    | .ok t => (.ok (), { l with handler := true, level := t, decided := [] })
    | .error f => (.error f, { l with handler := true })

/-- A logger that keeps the records that come to it where there is no stream. -/
def isKeeper (logger : Text) : Bool :=
  logger == "layoutbox.builder" || logger == "layoutbox.compose"

/-- The level that a logger has of its own. Where records are kept, they are kept from the
lowest level on. -/
def ownLevel (l : Logging) (logger : Text) : Value :=
  if logger == Logger.root then l.level.toValue
  else if !l.stream && isKeeper logger then .int 10
  else .int 0

/-- A record that comes to some loggers is written by the root, or kept by a keeper where there is
no stream. -/
def admits (l : Logging) (loggers : List Text) : Bool :=
  if l.stream then l.handler && loggers.contains Logger.root else loggers.any isKeeper

end Logging

end LayoutTree
