/-!
# Open scopes

Each scope has a number of its own, so that scopes can be closed in any order.
-/

namespace StructuredLog

structure OpenScopes (α : Type) where
  /-- The number of the next scope. It is not bounded here; a counter of 64 bits gives the same
  numbers until 2 ^ 64 scopes have been opened. -/
  nextId : Nat := 0
  entries : List (Nat × α) := []
  deriving Repr

namespace OpenScopes

/-- Opens a scope and gives its number. -/
def push {α : Type} (a : α) (s : OpenScopes α) : Nat × OpenScopes α :=
  (s.nextId, ⟨s.nextId + 1, s.entries ++ [(s.nextId, a)]⟩)

/-- Closes the scope with this number. -/
def remove {α : Type} (id : Nat) (s : OpenScopes α) : OpenScopes α :=
  { s with entries := s.entries.filter fun (k, _) => k ≠ id }

/-- The contents of the open scopes, in the order of their opening. -/
def contents {α : Type} (s : OpenScopes α) : List α :=
  s.entries.map Prod.snd

theorem contents_push {α : Type} (a : α) (s : OpenScopes α) :
    (s.push a).2.contents = s.contents ++ [a] := by
  simp [push, contents]

end OpenScopes

end StructuredLog
