import StructuredLog.Observed
import StructuredLog.Proofs.Offers

/-!
# Writing renderings

The pieces of a rendering are offered to a writer until it refuses one or the rendering fails. A
writer may change when it refuses; one that does not is a special case.
-/

namespace StructuredLog.Rendering

variable {σ : Type}

/-! ## Pieces -/

theorem pieces_flatMap {α : Type} {f : α → Rendering} {xs : List α}
    (h : ∀ x ∈ xs, completes (f x) = true) :
    pieces (xs.flatMap f) = xs.flatMap fun x => pieces (f x) := by
  induction xs with
  | nil => rfl
  | cons x xs ih =>
    rw [List.forall_mem_cons] at h
    rw [List.flatMap_cons, pieces_append h.1, ih h.2, List.flatMap_cons]

theorem deliver_concat (held : List String) (r : Rendering) :
    deliver (fun held piece => some (held ++ [piece])) held r =
      (held ++ pieces r, completes r) := by
  rw [deliver_some, List.foldl_append_eq_append, ← List.flatMap_def, List.flatMap_singleton']

/-! ## Into a string -/

/-- A string takes every piece. -/
def appended (written piece : String) : Option String :=
  some (written ++ piece)

theorem deliver_appended (s : String) (r : Rendering) :
    deliver appended s r = (s ++ text r, completes r) := by
  have hjoin : (pieces r).foldl (· ++ ·) (s ++ "") = s ++ text r := List.foldl_assoc
  rw [String.append_empty] at hjoin
  rw [← hjoin]
  exact deliver_some _ s r

theorem toText_result_eq_none_iff {r : Rendering} :
    (toText r).result = none ↔ completes r = false := by
  simp [toText]

/-! ## Writers -/

/-- Offers the pieces to a writer until it refuses one or the rendering fails. -/
def writeTo (write : Taker String Unit σ) : Rendering → ExceptT Unit (StateM σ) Unit
  | [] => pure ()
  | .start _ :: rest => writeTo write rest
  | .fail :: _ => throw ()
  | .write piece :: rest => do
    write piece
    writeTo write rest

theorem writeTo_append (write : Taker String Unit σ) (r t : Rendering) :
    writeTo write (r ++ t) = writeTo write r >>= fun _ => writeTo write t := by
  induction r with
  | nil => exact (pure_bind ..).symm
  | cons a r ih =>
    cases a with
    | start object => exact ih
    | fail => rfl
    | write piece => rw [List.cons_append, writeTo, ih, writeTo, bind_assoc]

/-- The writer that stays as it is when it refuses a piece. -/
def keeping (accept : σ → String → Option σ) : Taker String Unit σ := fun piece =>
  ExceptT.mk fun s =>
    match accept s piece with
    | some s' => (.ok (), s')
    | none => (.error (), s)

theorem run_keeping (accept : σ → String → Option σ) (s : σ) (piece : String) :
    (keeping accept piece).run.run s =
      match accept s piece with
      | some s' => (.ok (), s')
      | none => (.error (), s) :=
  rfl

theorem run_writeTo_keeping (accept : σ → String → Option σ) (s : σ) (r : Rendering) :
    (writeTo (keeping accept) r).run.run s =
      (if (deliver accept s r).2 then .ok () else .error (), (deliver accept s r).1) := by
  induction r generalizing s with
  | nil => rfl
  | cons a r ih =>
    cases a with
    | start object => exact ih s
    | fail => rfl
    | write piece =>
      rw [writeTo, ExceptT.run_bind, StateT.run_bind, run_keeping, deliver]
      cases accept s piece with
      | some s' => exact ih s'
      | none => rfl

/-- Writing offers the pieces in turn, and fails behind them if the rendering does. -/
theorem run_writeTo {write : Taker String Unit σ} {s s' : σ} {r : Rendering}
    {answer : Except Unit Unit} (h : ((pieces r).forM write).run.run s = (answer, s')) :
    (writeTo write r).run.run s = (if completes r then answer else .error (), s') := by
  induction r generalizing s with
  | nil => exact h
  | cons a r ih =>
    cases a with
    | start object =>
      rw [pieces_start] at h
      exact ih h
    | fail =>
      rw [pieces_fail] at h
      cases h
      rfl
    | write piece =>
      rw [pieces_write] at h
      rw [writeTo, ExceptT.run_bind, StateT.run_bind]
      cases hanswer : (write piece).run.run s with
      | mk first s₁ =>
        cases first with
        | ok =>
          rw [Taker.run_forM_cons_of_ok hanswer] at h
          exact ih h
        | error =>
          -- The error is the same one, wherever the rendering would have failed later.
          rw [Taker.run_forM_cons_of_error hanswer] at h
          cases h
          show (Except.error (), s') = _
          split <;> rfl

end StructuredLog.Rendering
