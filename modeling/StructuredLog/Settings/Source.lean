import StructuredLog.Error
import StructuredLog.Settings.Document

/-! # Where settings come from -/

namespace StructuredLog.Settings

/-- The settings of a file, given by its bytes; `none` stands for a file that does not exist. -/
def ofFile : Option ByteArray → Except Error Settings
  | none => .error (.file .notFound)
  | some bytes =>
    match String.fromUTF8? bytes with
    | none => .error (.file .notText)
    | some text => (ofYaml text).mapError .settings

/-- The value of an environment variable; bytes that are no text count as unset. -/
def overrideOfBytes (bytes : ByteArray) : Option String :=
  String.fromUTF8? bytes

/-- Takes the minimum level from an environment variable, if it is set. A text that names no level is
reported before anything is changed. -/
def applyOverride : Option String → ExceptT Error (StateM Settings) Unit
  | none => pure ()
  | some text => do
    let minLevel ← Level.parse text
    modify fun s => { s with minLevel }

/-- The settings with an override applied to them. -/
def withOverride (s : Settings) (override : Option String) : Except Error Settings :=
  match (applyOverride override).run.run s with
  | (.ok (), s) => .ok s
  | (.error e, _) => .error e

end StructuredLog.Settings
