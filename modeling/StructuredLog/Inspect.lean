import StructuredLog.Bridge
import StructuredLog.Sink.Memory

/-!
# Texts for developers

Values, definitions and sinks as they appear in diagnostics: the name of the kind, then its parts.
-/

namespace StructuredLog

/-! ## Shapes -/

namespace Inspect

/-- `name(part)`. -/
def wrapped (name part : String) : String :=
  name ++ "(" ++ part ++ ")"

/-- `name { field: part, … }`, with two dots at the end for fields that are not shown. -/
def record (name : String) (fields : List (String × String)) (more : Bool) : String :=
  let parts := fields.map (fun (field, part) => field ++ ": " ++ part) ++
    (if more then [".."] else [])
  name ++ " \x7b " ++ String.intercalate ", " parts ++ " \x7d"

def list (parts : List String) : String :=
  "[" ++ String.intercalate ", " parts ++ "]"

def option (part : Option String) : String :=
  match part with
  | some part => wrapped "Some" part
  | none => "None"

end Inspect

open Inspect

/-! ## Values and views -/

def Number.inspect : Number → String
  | .int n => wrapped "I64" (toString n.toInt)
  | .nat n => wrapped "U64" (toString n.toNat)
  | .float x => wrapped "F64" (Decimal.exact.float x)

def Value.inspect : Value → String
  | .str s => wrapped "Str" (Text.quote s)
  | .number n => wrapped "Number" n.inspect
  | .bool b => wrapped "Bool" (toString b)
  | .char c => wrapped "Char" (Text.quoteChar c)
  | .display _ => wrapped "Display" ".."
  | .null => "Null"

def Pair.inspect (pair : Pair) : String :=
  record "Pair" [("name", Text.quote pair.name), ("value", pair.value.inspect)] false

def View.inspect (v : View) : String :=
  list (v.pairs.map Pair.inspect)

/-! ## Levels and events -/

def Level.inspect : Level → String
  | .trace => "Trace"
  | .debug => "Debug"
  | .info => "Info"
  | .warn => "Warn"
  | .error => "Error"
  | .critical => "Critical"

def EventId.inspect (event : EventId) : String :=
  record "EventId" [
    ("id", toString event.id.toInt),
    ("name", option (event.name.map Text.quote))] false

/-! ## Definitions and entries -/

def inspectNames (names : List String) : String :=
  list (names.map Text.quote)

def Message.inspect {arity : Nat} (m : Message arity) : String :=
  record "LogMessage" [
    ("level", m.level.inspect),
    ("event_id", m.event.inspect),
    ("template", Text.quote m.template.original),
    ("names", inspectNames m.names.toList)] false

def Scope.inspect {arity : Nat} (s : Scope arity) : String :=
  record "ScopeData" [("names", inspectNames s.names.toList)] false

/-- The error is displayed, so there may be no text. -/
def Entry.inspect (e : Entry) : Observed String := do
  let error ← e.errorText
  return record "Entry" [
    ("level", e.level.inspect),
    ("event_id", e.event.inspect),
    ("state", e.state.inspect),
    ("error", option (error.map Text.quote))] true

/-! ## Sinks -/

def Guard.inspect (g : Guard) : String :=
  record "ScopeGuard" [("noop", toString (g == .noop))] false

def Memory.inspect (s : Memory) : String :=
  record "MemorySink" [
    ("min_level", option (s.minLevel.map Level.inspect)),
    ("entries", toString s.entries.length),
    ("scopes", toString s.scopeStore.length)] false

def Bridge.inspect {β : Type} (s : Bridge β) : String :=
  record "LogSink" [("target", Text.quote s.target)] true

end StructuredLog
