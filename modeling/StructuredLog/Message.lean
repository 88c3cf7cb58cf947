import StructuredLog.Error
import StructuredLog.EventId
import StructuredLog.Names
import StructuredLog.View

/-!
# Messages

A message is defined once: its template is compiled, and its slots and further names are checked
against the number of its arguments. Each call then gives a view of the arguments by name, followed
by the template itself, and the text of the template.
-/

namespace StructuredLog

/-- A message with `arity` arguments: first those of the slots, then the unformatted ones. -/
structure Message (arity : Nat) where
  level : Level
  event : EventId
  template : Template
  names : Vector String arity
  deriving DecidableEq, Repr

namespace Message

/-! ## Definition -/

/-- The names that a template and the unformatted names have together. -/
def combinedNames (arity : Nat) (formatted unformatted : List String) :
    Except Error (Vector String arity) :=
  if h : formatted.length + unformatted.length = arity then
    match hc : Names.combine formatted unformatted with
    | .ok names => .ok ⟨names.toArray, by simp [Names.eq_append_of_combine hc, h]⟩
    | .error name => .error (.duplicateName name)
  else .error (.arityMismatch arity formatted.length unformatted.length)

/-- Compiles the template first, then counts the names, then looks for one that comes twice. -/
def define (arity : Nat) (level : Level) (event : EventId) (template : String)
    (unformatted : List String) : Except Error (Message arity) := do
  let template ← (Template.compile template).mapError .template
  let names ← combinedNames arity template.names unformatted
  pure { level, event, template, names }

/-! ## Calls -/

/-- What a call shows: the arguments under their names, and the template behind them. -/
def state {arity : Nat} (m : Message arity) (args : Vector Value arity) : View :=
  (View.zip m.names args).push ⟨originalFormat, .str m.template.original⟩

/-- The text of a call is the template with the values of its state. -/
def rendering {arity : Nat} (m : Message arity) (args : Vector Value arity) : Rendering :=
  m.template.rendering (m.state args).values

end Message

end StructuredLog
