import StructuredLog.Decimal.Layout
import StructuredLog.Settings
import StructuredLog.Text.Quoted

/-! # What can be wrong with settings -/

namespace StructuredLog.Settings

/-- What stands where something else is expected. -/
inductive Found
  | null
  | bool (b : Bool)
  | int (n : Int)
  | float (x : Float)
  | str (s : String)
  | sequence
  | map
  deriving Repr

inductive Problem
  /-- The text holds no single value. -/
  | unreadable
  | wrongType (found : Found) (expected : String)
  | unknownField (name : String)
  | duplicateField (name : String)
  | unknownFormat (name : String)
  | unknownLevel (text : String)
  /-- A format given as a map must have one member. -/
  | notSingleKey
  /-- An array has more items than there are fields. -/
  | tooLong (length : Nat)
  /-- A text where nothing may stand. -/
  | notNull (text : String)
  /-- A problem with a value whose field is named in the message, if the field can be told. -/
  | inValue (field? : Option Field) (problem : Problem)
  deriving Repr

/-- How the source of the settings calls a null and writes floats. -/
structure Wording where
  null : String
  float : Decimal.Layout

def yamlWording : Wording := ⟨"unit value", ⟨.up, none, true, false⟩⟩

def jsonWording : Wording := ⟨"null", Decimal.json⟩

def Found.text (w : Wording) : Found → String
  | .null => w.null
  | .bool b => "boolean \x60" ++ toString b ++ "\x60"
  | .int n => "integer \x60" ++ toString n ++ "\x60"
  | .float x => "floating point \x60" ++ w.float.float x ++ "\x60"
  | .str s => "string " ++ Text.quote s
  | .sequence => "sequence"
  | .map => "map"

/-- The names between backticks, separated by commas. -/
def listNames (names : List String) : String :=
  String.intercalate ", " (names.map fun name => "\x60" ++ name ++ "\x60")

def Problem.message (w : Wording) : Problem → String
  | .unreadable => "the text is not one value"
  | .wrongType found expected => "invalid type: " ++ found.text w ++ ", expected " ++ expected
  | .unknownField name =>
    "unknown field \x60" ++ name ++ "\x60, expected one of " ++ listNames (Field.all.map Field.name)
  | .duplicateField name => "duplicate field \x60" ++ name ++ "\x60"
  | .unknownFormat name => "unknown variant \x60" ++ name ++ "\x60, expected \x60text\x60 or \x60json\x60"
  | .unknownLevel text => "unknown log level: " ++ Text.quote text
  | .notSingleKey => "invalid value: map, expected map with a single key"
  | .tooLong length => "invalid length " ++ toString length ++ ", expected fewer elements in array"
  | .notNull text => "invalid value: string " ++ Text.quote text ++ ", expected null"
  | .inValue field? problem => field?.elim "?" Field.name ++ ": " ++ problem.message w

end StructuredLog.Settings
