import StructuredLog.Text.Blank

/-! # Levels -/

namespace StructuredLog

/-- How severe an entry is. -/
inductive Level
  | trace
  | debug
  | info
  | warn
  | error
  | critical
  deriving DecidableEq, Repr, Inhabited

namespace Level

/-- All levels in ascending order. -/
def all : List Level := [.trace, .debug, .info, .warn, .error, .critical]

def standard : Level := .info

/-! ## Order -/

def rank : Level → Nat
  | .trace => 0
  | .debug => 1
  | .info => 2
  | .warn => 3
  | .error => 4
  | .critical => 5

instance : LE Level := ⟨fun a b => a.rank ≤ b.rank⟩

instance (a b : Level) : Decidable (a ≤ b) :=
  inferInstanceAs (Decidable (a.rank ≤ b.rank))

instance : Ord Level := ⟨fun a b => compare a.rank b.rank⟩

instance : Max Level := maxOfLe

/-! ## Spellings -/

def name : Level → String
  | .trace => "trace"
  | .debug => "debug"
  | .info => "info"
  | .warn => "warn"
  | .error => "error"
  | .critical => "critical"

/-- The name as it begins a line of text, five columns wide. -/
def label : Level → String
  | .trace => "TRACE"
  | .debug => "DEBUG"
  | .info => "INFO "
  | .warn => "WARN "
  | .error => "ERROR"
  | .critical => "CRIT "

/-- What a level may be called, in lower case. -/
def spellings : Level → List String
  | .trace => ["trace"]
  | .debug => ["debug"]
  | .info => ["info", "information"]
  | .warn => ["warn", "warning"]
  | .error => ["error"]
  | .critical => ["critical", "crit"]

/-- The level with this spelling; blanks around it and the case of ASCII letters do not matter. -/
def parse? (s : String) : Option Level :=
  all.find? fun level => Text.fold s ∈ level.spellings

end Level

end StructuredLog
