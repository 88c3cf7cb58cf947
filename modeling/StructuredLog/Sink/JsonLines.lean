import StructuredLog.Json.Printer
import StructuredLog.Sink
import StructuredLog.Sink.Device
import StructuredLog.Sink.OpenScopes

/-!
# A sink of JSON lines

Each entry is one object on a line of its own. The pairs of the entry become its fields; values
under one name are collected in an array.
-/

namespace StructuredLog

/-- A value as JSON; floats that are not finite become null. -/
def Value.json : Value → Observed Json
  | .str s => pure (.str s)
  | .number (.float x) => pure (if x.isFinite then .number (.float x) else .null)
  | .number n => pure (.number n)
  | .bool b => pure (.bool b)
  | .char c => pure (.str (String.singleton c))
  | .display object => do return .str (← Rendering.toText object.rendering)
  | .null => pure .null

namespace Json

/-- Puts a value behind those that a name already has. A single value is never an array. -/
def addValue (value : Json) : Option Json → Json
  | none => value
  | some (.array values) => .array (values ++ [value])
  | some first => .array [first, value]

/-- Collects the values of pairs by name, from the first pair on. -/
def collect (members : Members) : List Pair → Observed Members
  | [] => pure members
  | pair :: rest => do
    let value ← pair.value.json
    collect (members.alter pair.name (addValue value)) rest

/-- An object with the values of the pairs. -/
def fields (pairs : List Pair) : Observed Members :=
  collect [] pairs

end Json

structure JsonLines where
  minLevel : Level := .info
  messages : Bool := true
  scopes : OpenScopes Json.Members := {}
  device : Device

namespace JsonLines

/-- The object of an entry, whatever its level. The message is displayed first, then the fields,
then the error. -/
def object (e : Entry) (s : JsonLines) : Observed Json := do
  let message ← if s.messages then some <$> e.text else pure none
  let fields ← Json.fields e.state.fields
  let error ← e.errorText
  let scopes := s.scopes.contents.map Json.object
  let optional (key : String) (value : Option Json) : List (String × Json) :=
    (value.map (key, ·)).toList
  return Json.ofEntries (
    [("level", .str e.level.name), ("event_id", .number (.int e.event.id.toInt64))] ++
    optional "event_name" (e.event.name.map .str) ++
    optional "message" (message.map .str) ++
    optional "template" (e.state.template?.map .str) ++
    [("fields", .object fields)] ++
    (if scopes.isEmpty then [] else [("scopes", .array scopes)]) ++
    optional "error" (error.map .str))

def isEnabled (level : Level) (s : JsonLines) : Bool :=
  s.minLevel ≤ level

/-- The line of an entry. -/
def line (e : Entry) (s : JsonLines) : Observed String := do
  let object ← s.object e
  return object.render ++ "\n"

def log (e : Entry) (s : JsonLines) : Observed Unit × JsonLines :=
  if s.isEnabled e.level then
    let line := s.line e
    match line.result with
    | none => (⟨line.started, none⟩, s)
    | some text =>
      let (written, device) := s.device.writeAll text.toUTF8.toList
      (⟨line.started, if written = .gaveUp then none else some ()⟩, { s with device })
  else (pure (), s)

def beginScope (v : View) (s : JsonLines) : Observed Guard × JsonLines :=
  let fields := Json.fields v.pairs
  match fields.result with
  | none => (⟨fields.started, none⟩, s)
  | some members =>
    let (id, scopes) := s.scopes.push members
    (⟨fields.started, some (.closes id)⟩, { s with scopes })

instance : Sink JsonLines where
  isEnabled level s := (s.isEnabled level, s)
  log := log
  beginScope := beginScope
  endScope id s := { s with scopes := s.scopes.remove id }

end JsonLines

end StructuredLog
