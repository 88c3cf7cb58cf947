import StructuredLog.Level
import StructuredLog.Message
import StructuredLog.Observed

/-! # Entries -/

namespace StructuredLog

/-- What a sink receives for one call. -/
structure Entry where
  level : Level
  event : EventId
  state : View
  message : Rendering
  error : Option Displayed

namespace Entry

/-- The text of the message. -/
def text (e : Entry) : Observed String :=
  Rendering.toText e.message

/-- The text of the error, if there is one. -/
def errorText (e : Entry) : Observed (Option String) :=
  Observed.optional (fun error => Rendering.toText error.rendering) e.error

end Entry

/-- The entry of a call. -/
def Message.entry {arity : Nat} (m : Message arity) (args : Vector Value arity)
    (error : Option Displayed) : Entry where
  level := m.level
  event := m.event
  state := m.state args
  message := m.rendering args
  error := error

end StructuredLog
