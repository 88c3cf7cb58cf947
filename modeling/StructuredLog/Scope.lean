import StructuredLog.Error
import StructuredLog.View

/-!
# Scopes

The data of a scope are names for a fixed number of arguments. Names may repeat.
-/

namespace StructuredLog

structure Scope (arity : Nat) where
  names : Vector String arity
  deriving DecidableEq, Repr

namespace Scope

def define (arity : Nat) (names : List String) : Except Error (Scope arity) :=
  if h : names.length = arity then .ok ⟨⟨names.toArray, by simp [h]⟩⟩
  else .error (.scopeArity arity names.length)

/-- The arguments under their names. -/
def state {arity : Nat} (s : Scope arity) (args : Vector Value arity) : View :=
  View.zip s.names args

/-- `name: value`, in pieces. -/
def pairRendering (pair : Pair) : Rendering :=
  .write pair.name :: .write ": " :: pair.value.rendering

/-- The pairs with commas between them. -/
def pairsRendering (pairs : List Pair) : Rendering :=
  [Attempt.write ", "].intercalate (pairs.map pairRendering)

/-- The text of a scope, which ends where the first value fails. -/
def rendering {arity : Nat} (s : Scope arity) (args : Vector Value arity) : Rendering :=
  pairsRendering (s.state args).pairs

end Scope

end StructuredLog
