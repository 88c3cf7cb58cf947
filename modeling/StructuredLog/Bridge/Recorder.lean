import StructuredLog.Bridge

/-!
# A backend that records

It keeps what it is asked and handed, with the message and each value displayed once.
-/

namespace StructuredLog

/-- A record as it was handed over. -/
structure Recorded where
  severity : Severity
  target : String
  message : Rendering
  values : List (String × KeyedValue)
  /-- Did the visitor see all values? -/
  complete : Bool
  deriving Repr

structure Recorder where
  /-- The finest severity that is enabled. -/
  finest : Option Severity
  /-- A target for which nothing is enabled. -/
  denied : Option String := none
  /-- How many values the visitor takes before it fails. -/
  visitLimit : Option Nat := none
  queries : Nat := 0
  flushes : Nat := 0
  records : List Recorded := []
  deriving Repr

namespace Recorder

/-- Keeps a value unless the limit is reached. -/
def visitor (limit : Option Nat) (key : String) (value : KeyedValue) :
    ExceptT Unit (StateM (List (String × KeyedValue))) Unit := do
  let kept ← get
  if limit.any (· ≤ kept.length) then throw ()
  set (kept ++ [(key, value)])

def log (record : Record) (s : Recorder) : Observed Unit × Recorder :=
  let (outcome, values) := (record.entry.visit (visitor s.visitLimit)).run.run []
  let complete := match outcome with
    | .ok () => true
    | .error () => false
  let started := Rendering.started record.message ++
    values.flatMap fun (_, value) => Rendering.started value.rendering
  (⟨started, some ()⟩, { s with records := s.records ++ [{
    severity := record.severity
    target := record.target
    message := record.message
    values
    complete }] })

instance : Backend Recorder where
  enabled severity target s :=
    (severity.passes s.finest && s.denied != some target, { s with queries := s.queries + 1 })
  log := log
  flush s := { s with flushes := s.flushes + 1 }

end Recorder

end StructuredLog
