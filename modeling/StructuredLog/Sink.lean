import StructuredLog.Entry
import StructuredLog.Scope

/-!
# Sinks

A sink consumes entries and scopes. Its operations may be abandoned half-way, because a value could
not be displayed or a writer gave up; then there is no result, but the sink is left in some state
and can be used on.
-/

namespace StructuredLog

/-- What keeps a scope open. -/
inductive Guard
  | noop
  | closes (id : Nat)
  deriving DecidableEq, Repr

/-- A sink in state `σ`. A sink need not know scopes. -/
class Sink (σ : Type) where
  isEnabled : Level → σ → Bool × σ
  log : Entry → σ → Observed Unit × σ
  beginScope : View → σ → Observed Guard × σ := fun _ s => (pure .noop, s)
  endScope : Nat → σ → σ := fun _ s => s

namespace Sink

/-- Drops a guard. -/
def close {σ : Type} [Sink σ] (g : Guard) (s : σ) : σ :=
  match g with
  | .noop => s
  | .closes id => endScope id s

end Sink

/-- Logs a call if the sink is enabled for its level; otherwise nothing is displayed. -/
def Message.log {σ : Type} [Sink σ] {arity : Nat} (m : Message arity) (args : Vector Value arity)
    (error : Option Displayed) (s : σ) : Observed Unit × σ :=
  let (enabled, s) := Sink.isEnabled m.level s
  if enabled then Sink.log (m.entry args error) s else (pure (), s)

/-- Opens a scope with its data. -/
def Scope.begin {σ : Type} [Sink σ] {arity : Nat} (scope : Scope arity)
    (args : Vector Value arity) (s : σ) : Observed Guard × σ :=
  Sink.beginScope (scope.state args) s

end StructuredLog
