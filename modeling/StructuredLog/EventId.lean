/-! # Event identifiers -/

namespace StructuredLog

/-- A number for a kind of event, with or without a name. -/
structure EventId where
  id : Int32
  name : Option String := none
  deriving DecidableEq, Repr

namespace EventId

def standard : EventId := ⟨0, none⟩

def text (event : EventId) : String :=
  match event.name with
  | some name => toString event.id.toInt ++ ":" ++ name
  | none => toString event.id.toInt

end EventId

end StructuredLog
