/-!
# Renderings

A value writes its text piece by piece and may give up on the way. A rendering lists what it would
do with a writer that takes everything: which display objects begin, which pieces are written, and
where it fails. Renderings compose by concatenation; what follows a failure is never reached.
-/

namespace StructuredLog

/-- An object that writes the same chunks each time it is displayed, and fails at the end if
`fails`. -/
structure Displayed where
  chunks : List String
  fails : Bool := false
  deriving DecidableEq, Repr

/-- One thing that happens while a text is written. -/
inductive Attempt
  | start (object : Displayed)
  | write (piece : String)
  | fail
  deriving DecidableEq, Repr

abbrev Rendering := List Attempt

/-- The rendering of a display object: it begins, writes its chunks, and fails if it must. -/
def Displayed.rendering (object : Displayed) : Rendering :=
  .start object :: object.chunks.map .write ++ (if object.fails then [.fail] else [])

namespace Rendering

/-! ## Into a writer that takes everything -/

/-- The part of a rendering before its first failure. -/
def reached (r : Rendering) : Rendering :=
  r.takeWhile (· ≠ .fail)

def completes (r : Rendering) : Bool :=
  r.all (· ≠ .fail)

/-- The pieces written before the first failure, in order. -/
def pieces (r : Rendering) : List String :=
  (reached r).filterMap fun
    | .write piece => some piece
    | _ => none

/-- The display objects that began before the first failure, in order. -/
def started (r : Rendering) : List Displayed :=
  (reached r).filterMap fun
    | .start object => some object
    | _ => none

/-- The text written before the first failure. -/
def text (r : Rendering) : String :=
  String.join (pieces r)

/-! ### One attempt before a rendering -/

section Cons

variable (object : Displayed) (piece : String) (r : Rendering)

@[simp] theorem completes_nil : completes [] = true := rfl

@[simp] theorem completes_start : completes (.start object :: r) = completes r := by
  simp [completes]

@[simp] theorem completes_write : completes (.write piece :: r) = completes r := by
  simp [completes]

@[simp] theorem completes_fail : completes (.fail :: r) = false := by
  simp [completes]

@[simp] theorem pieces_nil : pieces [] = [] := rfl

@[simp] theorem pieces_start : pieces (.start object :: r) = pieces r := by
  simp [pieces, reached]

@[simp] theorem pieces_write : pieces (.write piece :: r) = piece :: pieces r := by
  simp [pieces, reached]

@[simp] theorem pieces_fail : pieces (.fail :: r) = [] := by
  simp [pieces, reached]

@[simp] theorem text_nil : text [] = "" := rfl

@[simp] theorem text_start : text (.start object :: r) = text r := by
  rw [text, pieces_start, text]

@[simp] theorem text_write : text (.write piece :: r) = piece ++ text r := by
  rw [text, pieces_write, String.join_cons, text]

@[simp] theorem text_fail : text (.fail :: r) = "" := by
  rw [text, pieces_fail, String.join_nil]

@[simp] theorem started_start : started (.start object :: r) = object :: started r := by
  simp [started, reached]

end Cons

/-! ### One rendering after another -/

theorem completes_append (r t : Rendering) :
    completes (r ++ t) = (completes r && completes t) := by
  simp [completes]

theorem reached_append (r t : Rendering) :
    reached (r ++ t) = if completes r then r ++ reached t else reached r := by
  induction r with
  | nil => simp [completes]
  | cons a r ih =>
    by_cases h : a = .fail
    · simp [reached, completes, h]
    · have hr : ∀ u : Rendering, reached (a :: u) = a :: reached u := by simp [reached, h]
      have hc : completes (a :: r) = completes r := by simp [completes, h]
      rw [List.cons_append, hr, hr, hc, ih]
      split <;> rfl

theorem reached_eq_self {r : Rendering} (h : completes r = true) : reached r = r := by
  simpa [h, reached] using reached_append r []

theorem pieces_append {r : Rendering} (h : completes r = true) (t : Rendering) :
    pieces (r ++ t) = pieces r ++ pieces t := by
  simp [pieces, reached_append, h, reached_eq_self]

theorem text_append {r : Rendering} (h : completes r = true) (t : Rendering) :
    text (r ++ t) = text r ++ text t := by
  rw [text, pieces_append h, String.join_append, text, text]

theorem text_append_of_fails {r : Rendering} (h : completes r = false) (t : Rendering) :
    text (r ++ t) = text r := by
  simp [text, pieces, reached_append, h]

theorem started_append {r : Rendering} (h : completes r = true) (t : Rendering) :
    started (r ++ t) = started r ++ started t := by
  simp [started, reached_append, h, reached_eq_self]

/-! ### Pieces alone -/

section Pieces

variable (chunks : List String)

@[simp] theorem completes_map_write : completes (chunks.map .write) = true := by
  simp [completes]

@[simp] theorem pieces_map_write : pieces (chunks.map .write) = chunks := by
  rw [pieces, reached_eq_self (completes_map_write chunks), List.filterMap_map, Function.comp_def,
    List.filterMap_some]

@[simp] theorem text_map_write : text (chunks.map .write) = String.join chunks := by
  rw [text, pieces_map_write]

@[simp] theorem started_map_write : started (chunks.map .write) = [] := by
  simp [started, reached_eq_self]

end Pieces

/-! ## Into a writer that may refuse -/

/-- Hands the pieces to a writer in state `s` until it refuses one or the rendering fails. The
result holds the last state and whether everything was written. -/
def deliver {σ : Type} (accept : σ → String → Option σ) : σ → Rendering → σ × Bool
  | s, [] => (s, true)
  | s, .start _ :: rest => deliver accept s rest
  | s, .fail :: _ => (s, false)
  | s, .write piece :: rest =>
    match accept s piece with
    | some s' => deliver accept s' rest
    | none => (s, false)

/-- A writer that takes everything gets all pieces. -/
theorem deliver_some {σ : Type} (take : σ → String → σ) (s : σ) (r : Rendering) :
    deliver (fun s piece => some (take s piece)) s r = ((pieces r).foldl take s, completes r) := by
  induction r generalizing s with
  | nil => simp [deliver]
  | cons a r ih =>
    cases a with
    | start object => simp [deliver, ih]
    | fail => simp [deliver]
    | write piece => simp [deliver, ih]

/-- A writer that keeps each non-empty piece and refuses further ones once it holds `limit`. -/
def keepUpTo (limit : Option Nat) (held : List String) (piece : String) : Option (List String) :=
  if piece.isEmpty then some held
  else if limit.any (· ≤ held.length) then none
  else some (held ++ [piece])

end Rendering

end StructuredLog
