import LayoutTree.Text.Quoted
import LayoutTree.Validation.Issue

/-!
The causes for which a step of a script fails, and their messages.
-/

namespace LayoutTree

inductive Fault where
  /-- A register that was never set. -/
  | unbound (register : Text)
  /-- The script itself raised an error. -/
  | raised (text : Text)
  | invalid (model : String) (issues : List Issue)
  | noField (type : String) (field : Text)
  /-- A field that a layout value does not have. -/
  | noRecordField (type : String) (field : Text)
  /-- A field that a type does not have. -/
  | noTypeField (type : String) (field : Text)
  | noSetter (type : String) (field : Option String)
  /-- Assignment to a field of a number. -/
  | notWritable (type : String) (field : Text)
  /-- Assignment to a field of a range. -/
  | readOnly
  /-- Assignment to the name or the value of a member of a choice. -/
  | memberField (field : String)
  /-- Assignment to a field of a frozen record. -/
  | frozenField (field : Text)
  /-- Assignment to a field of a type. -/
  | fixedType (type : String) (field : Text)
  | notNode (type : String)
  /-- A text or byte string in a block. -/
  | textInBlock (written : Text)
  | strangerInBlock (type : String)
  | notBlock (type : String)
  | notIterable (type : String)
  | notCallable (type : String)
  | notMapping (type : String)
  | unhashable (type : String)
  | noLength (type : String)
  | lengthTooLarge
  | notSubscriptable (type : String)
  /-- A type where a container was expected. -/
  | typeNotSubscriptable (type : String)
  | badIndex (container type : String)
  /-- A place in a text that is no whole number. -/
  | badPlace (type : String)
  /-- An index beyond the elements of a container, whose name is followed by a blank. -/
  | indexOutOfRange (container : String)
  | indexTooLarge
  | notCount (type : String)
  | countTooLarge
  | outOfMemory
  | missingKey (key : Text)
  | unknownEdge (edge : Text)
  | notMember (written : Text) (type : String)
  | noSections
  | emptyGroup (direction : Text)
  | strangerInGroup (type : String)
  | looseFragment
  | notComposable (type : String)
  | cannotRepeat (engine : Text)
  | unknownEngine (name : Text) (available : List Text)
  /-- A name at a place in a list of names that is no text. -/
  | notName (place : Nat) (type : String)
  | unknownLevel (written : Text)
  | notLevel (written : Text)
  /-- A level that cannot be compared with a whole number. -/
  | notComparable (type : String)
  | notLoggerName
  | notSerializable (type : String)
  /-- Halves of surrogate pairs from one place in a text to another, of which the first is given. -/
  | notEncodable (point first last : Nat)
  /-- A character that ends texts outside. -/
  | nullCharacter
  | badVariable
  | noVariable
  | notText (type : String)
  /-- A method of a type that was called without a value. -/
  | unboundMethod (name : String)
  | alreadyRunning
  | wrongArguments
  /-- The script calls itself without end. -/
  | tooDeep
deriving DecidableEq, Repr

namespace Fault

def apostrophed (t : Text) : Text := "\x27" ++ t ++ "\x27"

/-- The type of a value at fault, as the subject of a sentence. -/
def object (type : String) : Text := apostrophed type ++ " object "

/-- What is told about a cause. For a register, a key or an error that the script raised itself it
is that alone. -/
def message : Fault → Text
  | .unbound register => register
  | .raised text => text
  | .invalid model _ => model
  | .noField type field => object type ++ "has no attribute " ++ apostrophed field
  | .noRecordField type field => object type ++ "has no attribute " ++ Text.quoted field
  | .noTypeField type field =>
    "type object " ++ apostrophed type ++ " has no attribute " ++ apostrophed field
  | .noSetter type field =>
    let named : Text := (field.map fun name => apostrophed name ++ " ").getD ""
    "property " ++ named ++ "of " ++ object type ++ "has no setter"
  | .notWritable type field =>
    "attribute " ++ apostrophed field ++ " of " ++ apostrophed type ++ " objects is not writable"
  | .readOnly => "readonly attribute"
  | .memberField field => "<enum \x27Enum\x27> cannot set attribute " ++ apostrophed field
  | .frozenField field => "cannot assign to field " ++ Text.quoted field
  | .fixedType type field =>
    "cannot set " ++ apostrophed field ++ " attribute of immutable type " ++ apostrophed type
  | .notNode type => "Cannot flatten " ++ type ++ "; expected a LayoutNode"
  | .textInBlock written => written ++ " cannot appear in a layout block"
  | .strangerInBlock type =>
    type ++ " cannot appear in a layout block; expected ItemBox, GroupBox or a layout node"
  | .notBlock type => "Layout block must be callable, got " ++ type
  | .notIterable type => object type ++ "is not iterable"
  | .notCallable type => object type ++ "is not callable"
  | .notMapping type => object type ++ "is not a mapping"
  | .unhashable type => "unhashable type: " ++ apostrophed type
  | .noLength type => "object of type " ++ apostrophed type ++ " has no len()"
  | .lengthTooLarge => "Python int too large to convert to C ssize_t"
  | .notSubscriptable type => object type ++ "is not subscriptable"
  | .typeNotSubscriptable type => "type " ++ apostrophed type ++ " is not subscriptable"
  | .badIndex container type =>
    container ++ " indices must be integers or slices, not " ++ type
  | .badPlace type => "string indices must be integers, not " ++ apostrophed type
  | .indexOutOfRange container => container ++ "index out of range"
  | .indexTooLarge => "cannot fit \x27int\x27 into an index-sized integer"
  | .notCount type => "can\x27t multiply sequence by non-int of type " ++ apostrophed type
  | .countTooLarge => "cannot fit \x27int\x27 into an index-sized integer"
  | .outOfMemory => ""
  | .missingKey key => key
  | .unknownEdge edge => "Unknown edge " ++ apostrophed edge
  | .notMember written type => written ++ " is not a valid " ++ type
  | .noSections => "A layout needs at least one section"
  | .emptyGroup direction => "Cannot compose an empty " ++ direction ++ " group"
  | .strangerInGroup type => "Group child " ++ type ++ " is not a Slot or Group"
  | .looseFragment =>
    "Fragment reached the composer; fragments must be flattened into a group\x27s children"
  | .notComposable type => "Cannot compose " ++ type
  | .cannotRepeat engine => "Engine " ++ apostrophed engine ++ " cannot repeat items"
  | .unknownEngine name available =>
    let names := Text.join ", " available
    "Unknown engine " ++ apostrophed name ++ ". Available: "
      ++ (if names.isEmpty then ("(none)" : Text) else names)
  | .notName place type =>
    "sequence item " ++ toString place ++ ": expected str instance, " ++ type ++ " found"
  | .unknownLevel written => "Unknown level: " ++ written
  | .notLevel written => "Level not an integer or a valid string: " ++ written
  | .notComparable type =>
    "\x27>=\x27 not supported between instances of \x27int\x27 and " ++ apostrophed type
  | .notLoggerName => "A logger name must be a string"
  | .notSerializable type => "Object of type " ++ type ++ " is not JSON serializable"
  | .notEncodable point first last =>
    "\x27utf-8\x27 codec can\x27t encode character"
      ++ (if first = last then " " ++ Text.quoted (.ofPoints [point]) else "s")
      ++ " in position " ++ toString first
      ++ (if first = last then "" else "-" ++ toString last) ++ ": surrogates not allowed"
  | .nullCharacter => "embedded null byte"
  | .badVariable => "illegal environment variable name"
  | .noVariable => "[Errno 22] Invalid argument"
  | .notText type => "str expected, not " ++ type
  | .unboundMethod name => "unbound method str." ++ name ++ "() needs an argument"
  | .alreadyRunning => "generator already executing"
  | .wrongArguments => "wrong arguments"
  | .tooDeep => "maximum recursion depth exceeded"

end Fault

end LayoutTree
