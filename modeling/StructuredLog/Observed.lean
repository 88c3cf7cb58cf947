import StructuredLog.Rendering

/-!
# Looking at values

To look at a value is to display it, which is seen by the value and may fail. An observation keeps
the display objects that were started, in order, and a result unless one of them failed.
-/

namespace StructuredLog

structure Observed (α : Type) where
  started : List Displayed
  result : Option α
  deriving DecidableEq, Repr

namespace Observed

/-- A result for which nothing is displayed. -/
def pure {α : Type} (a : α) : Observed α := ⟨[], some a⟩

/-- Looks on unless the first look failed. -/
def bind {α β : Type} (x : Observed α) (f : α → Observed β) : Observed β :=
  match x.result with
  | none => ⟨x.started, none⟩
  | some a => ⟨x.started ++ (f a).started, (f a).result⟩

instance : Monad Observed where
  pure := Observed.pure
  bind := Observed.bind

@[simp] theorem pure_started {α : Type} (a : α) : (Pure.pure a : Observed α).started = [] := rfl

@[simp] theorem pure_result {α : Type} (a : α) : (Pure.pure a : Observed α).result = some a := rfl

@[simp] theorem bind_result {α β : Type} (x : Observed α) (f : α → Observed β) :
    (x >>= f).result = x.result.bind fun a => (f a).result := by
  show (Observed.bind x f).result = _
  unfold Observed.bind
  split <;> simp_all

theorem bind_started {α β : Type} (x : Observed α) (f : α → Observed β) :
    (x >>= f).started = x.started ++ (x.result.elim [] fun a => (f a).started) := by
  show (Observed.bind x f).started = _
  unfold Observed.bind
  split <;> simp_all

/-- Looks at the members of a list in order and keeps what is seen of each. -/
def each {α β : Type} (f : α → Observed β) : List α → Observed (List β)
  | [] => Pure.pure []
  | a :: rest => do
    let b ← f a
    let bs ← each f rest
    Pure.pure (b :: bs)

/-- Looks at what may be there. -/
def optional {α β : Type} (f : α → Observed β) : Option α → Observed (Option β)
  | none => Pure.pure none
  | some a => do
    let b ← f a
    Pure.pure (some b)

end Observed

/-- The whole text of a rendering; there is none if it fails. -/
def Rendering.toText (r : Rendering) : Observed String :=
  ⟨Rendering.started r, if Rendering.completes r then some (Rendering.text r) else none⟩

end StructuredLog
