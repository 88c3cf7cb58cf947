import StructuredLog.Level

/-! # Settings of a sink -/

namespace StructuredLog

/-- Which sink writes the entries. -/
inductive Format
  | text
  | json
  deriving DecidableEq, Repr

def Format.name : Format → String
  | .text => "text"
  | .json => "json"

/-- The format with this name, written exactly so. -/
def Format.parse? (s : String) : Option Format :=
  [Format.text, .json].find? fun format => s = format.name

structure Settings where
  minLevel : Level := .info
  format : Format := .text
  eventIds : Bool := true
  messages : Bool := true
  deriving DecidableEq, Repr

namespace Settings

def standard : Settings := {}

/-- The settings as a document, in the order of their declaration. -/
def yaml (s : Settings) : String :=
  "min_level: " ++ s.minLevel.name ++ "\nformat: " ++ s.format.name ++ "\nevent_ids: " ++
    toString s.eventIds ++ "\nmessages: " ++ toString s.messages ++ "\n"

/-! ## Fields -/

inductive Field
  | minLevel
  | format
  | eventIds
  | messages
  deriving DecidableEq, Repr

def Field.name : Field → String
  | .minLevel => "min_level"
  | .format => "format"
  | .eventIds => "event_ids"
  | .messages => "messages"

def Field.all : List Field := [.minLevel, .format, .eventIds, .messages]

def Field.parse? (s : String) : Option Field :=
  all.find? fun field => s = field.name

end Settings

end StructuredLog
