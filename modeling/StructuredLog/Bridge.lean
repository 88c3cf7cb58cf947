import StructuredLog.Sink

/-!
# Forwarding to a logging backend

A backend takes records: a severity, a target, a text and keyed values that are handed to a visitor
one by one. The bridge is a sink that makes a record of each entry.
-/

namespace StructuredLog

/-! ## Records -/

/-- The severities of backends, the most severe first. -/
inductive Severity
  | error
  | warn
  | info
  | debug
  | trace
  deriving DecidableEq, Repr

namespace Severity

def rank : Severity → Nat
  | .error => 1
  | .warn => 2
  | .info => 3
  | .debug => 4
  | .trace => 5

/-- Is the severity no finer than the finest one that is let through? -/
def passes (finest : Option Severity) (severity : Severity) : Bool :=
  finest.any fun limit => severity.rank ≤ limit.rank

def name : Severity → String
  | .error => "ERROR"
  | .warn => "WARN"
  | .info => "INFO"
  | .debug => "DEBUG"
  | .trace => "TRACE"

end Severity

/-- Backends know nothing above an error. -/
def Level.severity : Level → Severity
  | .trace => .trace
  | .debug => .debug
  | .info => .info
  | .warn => .warn
  | .error => .error
  | .critical => .error

/-- A value as a backend sees it. -/
inductive KeyedValue
  | str (s : String)
  | number (n : Number)
  | bool (b : Bool)
  | char (c : Char)
  | any (object : Displayed)
  | null
  deriving Repr

namespace KeyedValue

/-- Backends write a null in their own way. -/
def rendering : KeyedValue → Rendering
  | .str s => [.write s]
  | .number n => n.rendering
  | .bool b => [.write (toString b)]
  | .char c => [.write (String.singleton c)]
  | .any object => object.rendering
  | .null => [.write "None"]

def kind : KeyedValue → String
  | .str _ => "str"
  | .number (.int _) => "i64"
  | .number (.nat _) => "u64"
  | .number (.float _) => "f64"
  | .bool _ => "bool"
  | .char _ => "char"
  | .any _ => "any"
  | .null => "null"

end KeyedValue

def Value.keyed : Value → KeyedValue
  | .str s => .str s
  | .number n => .number n
  | .bool b => .bool b
  | .char c => .char c
  | .display object => .any object
  | .null => .null

/-- Hands the pairs of the state to a visitor, then the event's number and the error. A visitor
that fails is not called again. -/
def Entry.visit {m : Type → Type} [Monad m] (e : Entry) (visitor : String → KeyedValue → m Unit) :
    m Unit := do
  e.state.pairs.forM fun pair => visitor pair.name pair.value.keyed
  visitor "event_id" (.number (.int e.event.id.toInt64))
  match e.error with
  | some error => visitor "error" (.any error)
  | none => pure ()

structure Record where
  target : String
  entry : Entry

namespace Record

def severity (r : Record) : Severity :=
  r.entry.level.severity

def message (r : Record) : Rendering :=
  r.entry.message

end Record

/-! ## Backends -/

class Backend (β : Type) where
  enabled : Severity → String → β → Bool × β
  log : Record → β → Observed Unit × β
  flush : β → β

/-- The backend of the whole program, behind a severity limit that is checked first. -/
structure Limited (β : Type) where
  finest : Option Severity
  backend : β

instance {β : Type} [Backend β] : Backend (Limited β) where
  enabled severity target s :=
    if severity.passes s.finest then
      let (on, backend) := Backend.enabled severity target s.backend
      (on, { s with backend })
    else (false, s)
  log record s :=
    let (result, backend) := Backend.log record s.backend
    (result, { s with backend })
  flush s := { s with backend := Backend.flush s.backend }

/-! ## The sink -/

structure Bridge (β : Type) where
  target : String := "namedlog"
  backend : β

/-- Records are handed on without asking whether they are enabled; scopes are not known. -/
instance {β : Type} [Backend β] : Sink (Bridge β) where
  isEnabled level s :=
    let (on, backend) := Backend.enabled level.severity s.target s.backend
    (on, { s with backend })
  log entry s :=
    let (result, backend) := Backend.log ⟨s.target, entry⟩ s.backend
    (result, { s with backend })

end StructuredLog
