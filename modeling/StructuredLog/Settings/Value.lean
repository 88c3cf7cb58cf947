import StructuredLog.Json
import StructuredLog.Settings.Problem

/-!
# Settings as JSON values

An object gives the settings by name, in ascending order of the names; an array gives them in the
order of their declaration, and the rest are the standard ones.
-/

namespace StructuredLog.Settings

def Found.ofJson : Json → Found
  | .null => .null
  | .bool b => .bool b
  | .number (.int n) => .int n.toInt
  | .number (.nat n) => .int n.toNat
  | .number (.float x) => .float x
  | .str s => .str s
  | .array _ => .sequence
  | .object _ => .map

def levelOfJson : Json → Except Problem Level
  | .str s =>
    match Level.parse? s with
    | some level => .ok level
    | none => .error (.unknownLevel s)
  | v => .error (.wrongType (Found.ofJson v) "a string")

/-- A format is given by its name, alone or as the key of a null. -/
def formatOfJson : Json → Except Problem Format
  | .str s => ofName s
  | .object [(key, content)] => do
    let format ← ofName key
    match content with
    | .null => pure format
    | v => throw (.wrongType (Found.ofJson v) "unit")
  | .object _ => .error .notSingleKey
  | v => .error (.wrongType (Found.ofJson v) "string or map")
where
  ofName (s : String) : Except Problem Format :=
    match Format.parse? s with
    | some format => .ok format
    | none => .error (.unknownFormat s)

def boolOfJson : Json → Except Problem Bool
  | .bool b => .ok b
  | v => .error (.wrongType (Found.ofJson v) "a boolean")

/-- Sets one field. -/
def setFromJson (s : Settings) (field : Field) (v : Json) : Except Problem Settings :=
  match field with
  | .minLevel => (levelOfJson v).map fun minLevel => { s with minLevel }
  | .format => (formatOfJson v).map fun format => { s with format }
  | .eventIds => (boolOfJson v).map fun eventIds => { s with eventIds }
  | .messages => (boolOfJson v).map fun messages => { s with messages }

def ofJson : Json → Except Problem Settings
  | .object members => members.foldlM (fun s (key, value) =>
      match Field.parse? key with
      | some field => s.setFromJson field value
      | none => .error (.unknownField key)) standard
  | .array items => do
    let s ← (Field.all.zip items).foldlM (fun s (field, value) => s.setFromJson field value)
      standard
    if Field.all.length < items.length then throw (.tooLong items.length) else pure s
  | v => .error (.wrongType (Found.ofJson v) "struct SinkConfig")

end StructuredLog.Settings
