import StructuredLog.Sink

/-!
# A sink that remembers

Entries and scopes are captured with everything displayed, so that they can be looked at later.
-/

namespace StructuredLog

/-! ## Captured values -/

/-- A value whose display objects have been replaced by their texts. -/
inductive Captured
  | str (s : String)
  | number (n : Number)
  | bool (b : Bool)
  | char (c : Char)
  | display (text : String)
  | null
  deriving Repr

def Captured.text : Captured → String
  | .str s => s
  | .number n => n.text
  | .bool b => toString b
  | .char c => String.singleton c
  | .display text => text
  | .null => "null"

def Captured.str? : Captured → Option String
  | .str s => some s
  | _ => none

def Value.capture : Value → Observed Captured
  | .str s => pure (.str s)
  | .number n => pure (.number n)
  | .bool b => pure (.bool b)
  | .char c => pure (.char c)
  | .display object => do return .display (← Rendering.toText object.rendering)
  | .null => pure .null

structure CapturedPair where
  name : String
  value : Captured
  deriving Repr

/-- Captures the pairs in order and stops at the first that cannot be displayed. -/
def View.capture (v : View) : Observed (List CapturedPair) :=
  Observed.each (fun pair => do return ⟨pair.name, ← pair.value.capture⟩) v.pairs

/-! ## Captured entries and scopes -/

structure CapturedEntry where
  level : Level
  event : EventId
  pairs : List CapturedPair
  message : Option String
  error : Option String
  deriving Repr

namespace CapturedEntry

/-- The value of the first pair with this name. -/
def get? (e : CapturedEntry) (name : String) : Option Captured :=
  (e.pairs.find? fun pair => pair.name == name).map CapturedPair.value

def names (e : CapturedEntry) : List String :=
  e.pairs.map CapturedPair.name

/-- The template, if the first pair under its name holds a text. -/
def template? (e : CapturedEntry) : Option String :=
  (e.get? originalFormat).bind Captured.str?

end CapturedEntry

/-- Captures an entry: its pairs, then its message if `rendering`, then its error. -/
def Entry.capture (rendering : Bool) (e : Entry) : Observed CapturedEntry := do
  let pairs ← e.state.capture
  let message ← if rendering then some <$> e.text else pure none
  let error ← e.errorText
  return { level := e.level, event := e.event, pairs, message, error }

structure CapturedScope where
  pairs : List CapturedPair
  closed : Bool
  deriving Repr

/-! ## The sink -/

structure Memory where
  /-- The least level that is enabled; without one none is. -/
  minLevel : Option Level := some .trace
  rendering : Bool := true
  /-- How often it was asked whether a level is enabled. This is not bounded here; a counter of 64
  bits shows the same up to 2 ^ 64 - 1 questions. -/
  queries : Nat := 0
  entries : List CapturedEntry := []
  /-- The number of the next scope, not bounded either. -/
  nextScope : Nat := 0
  scopeStore : List (Nat × CapturedScope) := []
  deriving Repr

namespace Memory

def isEnabled (level : Level) (s : Memory) : Bool × Memory :=
  (s.minLevel.any (· ≤ level), { s with queries := s.queries + 1 })

def log (e : Entry) (s : Memory) : Observed Unit × Memory :=
  let captured := e.capture s.rendering
  match captured.result with
  | some entry => (⟨captured.started, some ()⟩, { s with entries := s.entries ++ [entry] })
  | none => (⟨captured.started, none⟩, s)

/-- The number of a scope is used up even if its pairs cannot be captured. -/
def beginScope (v : View) (s : Memory) : Observed Guard × Memory :=
  let captured := v.capture
  let id := s.nextScope
  let s := { s with nextScope := id + 1 }
  match captured.result with
  | some pairs =>
    (⟨captured.started, some (.closes id)⟩,
      { s with scopeStore := s.scopeStore ++ [(id, ⟨pairs, false⟩)] })
  | none => (⟨captured.started, none⟩, s)

/-- Marks a scope as closed if it has not been forgotten. -/
def endScope (id : Nat) (s : Memory) : Memory :=
  { s with scopeStore := s.scopeStore.map fun (k, scope) =>
      (k, if k = id then { scope with closed := true } else scope) }

instance : Sink Memory where
  isEnabled := isEnabled
  log := log
  beginScope := beginScope
  endScope := endScope

/-! ## Looking back -/

/-- All scopes since the last `clear`, in the order of their opening. -/
def scopes (s : Memory) : List CapturedScope :=
  s.scopeStore.map Prod.snd

def openScopes (s : Memory) : List CapturedScope :=
  s.scopes.filter fun scope => !scope.closed

/-- Forgets the entries and scopes, but neither the queries nor the numbers given to scopes. -/
def clear (s : Memory) : Memory :=
  { s with entries := [], scopeStore := [] }

end Memory

end StructuredLog
