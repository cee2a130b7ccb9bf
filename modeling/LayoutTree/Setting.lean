import LayoutTree.Text.Bytes
import LayoutTree.Text.Case
import LayoutTree.Text.Character

/-!
The settings that are read from environment variables: their kinds, defaults and descriptions,
and the reading of their texts.
-/

namespace LayoutTree

inductive Setting where
  | engine
  | repeatItems
  | logLevel
deriving DecidableEq, Repr

/-- What the text of a setting denotes. -/
inductive SettingKind where
  | text
  | flag
deriving DecidableEq, Repr

/-- The value of a setting: a text, a flag, or nothing. -/
inductive SettingValue where
  | text (t : Text)
  | flag (b : Bool)
  | unset
deriving DecidableEq, Repr

/-- The environment variables that are set. Their names and texts are kept as bytes. -/
abbrev Environment := List (List UInt8 × List UInt8)

namespace Environment

def get? (env : Environment) (name : Text) : Option Text :=
  (env.lookup name.bytes).map .ofBytes

def unset (env : Environment) (name : Text) : Environment := env.filter (·.1 != name.bytes)

def set (env : Environment) (name text : Text) : Environment :=
  (name.bytes, text.bytes) :: env.unset name

/-- The environment with some variables set one after the other. -/
def ofList (vars : List (Text × Text)) : Environment :=
  vars.foldl (fun env v => env.set v.1 v.2) []

@[simp] theorem get?_set_self (env : Environment) (name text : Text) :
    (env.set name text).get? name = some (.ofBytes text.bytes) := by
  simp [get?, set]

theorem get?_set_self_plain (env : Environment) (name : Text) (s : String) :
    (env.set name s).get? name = some (.plain s) := by
  simp

theorem get?_unset_self (env : Environment) (name : Text) : (env.unset name).get? name = none := by
  simp [get?, unset, List.lookup_eq_none_iff]
  intro k v _ hk
  exact Ne.symm hk

theorem get?_unset_of_ne {other name : Text} (h : other.bytes ≠ name.bytes) (env : Environment) :
    (env.unset name).get? other = env.get? other := by
  induction env with
  | nil => rfl
  | cons e env ih =>
    obtain ⟨k, v⟩ := e
    simp only [get?, unset] at ih ⊢
    by_cases hk : k = name.bytes
    · have ho : (other.bytes == name.bytes) = false := by simpa using h
      simp [hk, List.lookup_cons, ← ih, ho]
    · have hk' : (k != name.bytes) = true := by simpa using hk
      simp only [List.filter_cons, hk', ↓reduceIte, List.lookup_cons]
      cases other.bytes == k <;> simp [ih]

theorem get?_set_of_ne {other name : Text} (h : other.bytes ≠ name.bytes) (env : Environment)
    (text : Text) : (env.set name text).get? other = env.get? other := by
  have hb : (other.bytes == name.bytes) = false := by simpa using h
  rw [← get?_unset_of_ne h env]
  simp [get?, set, List.lookup_cons, hb]

end Environment

/-- A word for yes or for no. -/
def flagOfWord? (word : String) : Option Bool :=
  if word == "true" || word == "1" || word == "yes" then some true
  else if word == "false" || word == "0" || word == "no" then some false
  else none

/-- A word for yes or for no with blanks around it. -/
def flagWord? (s : String) : Option Bool :=
  flagOfWord? (String.ofList (Text.strip Text.isGap s.toList))

/-- A yes or a no, in any letter case and with blanks around it. -/
def flag? (t : Text) : Option Bool := t.lower.string?.bind flagWord?

namespace Setting

def all : List Setting := [.engine, .repeatItems, .logLevel]

def name : Setting → String
  | .engine => "LAYOUTBOX_ENGINE"
  | .repeatItems => "LAYOUTBOX_REPEAT_ITEMS"
  | .logLevel => "LAYOUTBOX_LOG_LEVEL"

def ofName? (t : Text) : Option Setting := all.find? (·.name == t)

def kind : Setting → SettingKind
  | .repeatItems => .flag
  | _ => .text

def default : Setting → SettingValue
  | .engine => .text "model"
  | .repeatItems => .unset
  | .logLevel => .text "WARNING"

def category : Setting → String
  | .logLevel => "logging"
  | _ => "compose"

def description : Setting → String
  | .engine => "Registered engine used when a Composer gets no engine"
  | .repeatItems => "Use the engine's repeat-one-item primitive (None=follow engine)"
  | .logLevel => "Level passed to setup_logging() when none is given"

/-- The value that a text gives to a setting. A flag that cannot be read counts as not set. -/
def read (s : Setting) (text : Text) : SettingValue :=
  match s.kind with
  | .text => .text text
  | .flag => (flag? text).elim s.default .flag

/-- The value of a setting in an environment. -/
def valueIn (s : Setting) (env : Environment) : SettingValue :=
  (env.get? s.name).elim s.default s.read

end Setting

end LayoutTree
