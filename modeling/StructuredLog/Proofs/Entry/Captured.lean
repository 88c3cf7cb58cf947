import StructuredLog.Sink.Memory

/-!
# What is captured

Capturing puts texts in the place of display objects. It fails exactly if one of them fails, and
what it gives can be told from the values alone.
-/

namespace StructuredLog

/-! ## Display objects -/

namespace Displayed

/-- What the object writes, whether it fails behind it or not. -/
def text (object : Displayed) : String :=
  String.join object.chunks

theorem completes_rendering (object : Displayed) :
    Rendering.completes object.rendering = !object.fails := by
  obtain ⟨chunks, fails⟩ := object
  cases fails <;> simp [rendering, Rendering.completes]

theorem text_rendering (object : Displayed) : Rendering.text object.rendering = object.text := by
  obtain ⟨chunks, fails⟩ := object
  have hend : Rendering.text (if fails then [.fail] else []) = "" := by cases fails <;> rfl
  rw [rendering, List.cons_append, Rendering.text_start,
    Rendering.text_append (Rendering.completes_map_write _), hend, Rendering.text_map_write,
    text, String.append_empty]

theorem toText_result (object : Displayed) : (Rendering.toText object.rendering).result =
    if object.fails then none else some object.text := by
  rw [Rendering.toText, completes_rendering, text_rendering]
  cases object.fails <;> rfl

end Displayed

/-! ## Values -/

/-- The value with what it writes in the place of a display object. -/
def Value.captured : Value → Captured
  | .str s => .str s
  | .number n => .number n
  | .bool b => .bool b
  | .char c => .char c
  | .display object => .display object.text
  | .null => .null

theorem Value.fails_display (object : Displayed) : (Value.display object).fails = object.fails := by
  rw [fails, rendering, object.completes_rendering, Bool.not_not]

theorem Value.fails_number (n : Number) : (Value.number n).fails = false := by
  rw [fails, rendering, n.completes_rendering, Bool.not_true]

theorem Value.capture_result (v : Value) :
    v.capture.result = if v.fails then none else some v.captured := by
  cases v with
  | display object =>
    rw [capture, Observed.bind_result, object.toText_result, fails_display]
    cases object.fails <;> rfl
  | number n => rw [fails_number]; rfl
  | _ => rfl

theorem Value.text_captured (v : Value) : v.captured.text = v.text := by
  cases v with
  | display object => exact object.text_rendering.symm
  | _ => simp [captured, Captured.text, text, rendering]

/-! ## Views -/

theorem Observed.map_result {α β : Type} (f : α → β) (x : Observed α) :
    (f <$> x).result = x.result.map f := by
  show (x >>= fun a => pure (f a)).result = _
  rw [bind_result]
  cases x.result <;> rfl

theorem Observed.map_eq {α β : Type} (f : α → β) (x : Observed α) :
    f <$> x = ⟨x.started, x.result.map f⟩ := by
  have hstarted : (f <$> x).started = x.started := by
    show (x >>= fun a => pure (f a)).started = _
    rw [bind_started]
    cases x.result <;> exact List.append_nil _
  rw [← hstarted, ← map_result]

/-- The members of a list are looked at in order; one that cannot be seen ends it without result. -/
theorem Observed.each_result {α β : Type} {f : α → Observed β} {fails : α → Bool} {g : α → β}
    (h : ∀ a, (f a).result = if fails a then none else some (g a)) (as : List α) :
    (each f as).result = if as.any fails then none else some (as.map g) := by
  induction as with
  | nil => rfl
  | cons a as ih =>
    rw [each, bind_result, h, List.any_cons]
    cases fails a with
    | true => rfl
    | false =>
      simp only [Bool.false_eq_true, if_false, Option.bind_some, bind_result, ih, Bool.false_or]
      split <;> rfl

/-- What may be there is seen if it can be seen, and its absence always. -/
theorem Observed.optional_result {α β : Type} {f : α → Observed β} {fails : α → Bool} {g : α → β}
    (h : ∀ a, (f a).result = if fails a then none else some (g a)) (a? : Option α) :
    (optional f a?).result = if a?.any fails then none else some (a?.map g) := by
  cases a? with
  | none => rfl
  | some a =>
    rw [optional, bind_result, h, Option.any_some]
    cases fails a <;> rfl

def Pair.captured (pair : Pair) : CapturedPair :=
  ⟨pair.name, pair.value.captured⟩

namespace View

/-- Is there a value that cannot be displayed? -/
def fails (v : View) : Bool :=
  v.pairs.any fun pair => pair.value.fails

theorem fails_of_mem_pairs {v : View} (h : v.fails = false) {pair : Pair} (hpair : pair ∈ v.pairs) :
    pair.value.fails = false := by
  rw [fails, List.any_eq_false] at h
  simpa using h pair hpair

theorem any_fails_fields {v : View} (h : v.fails = false) :
    (v.fields.any fun pair => pair.value.fails) = false := by
  rw [fields, List.any_eq_false]
  intro pair hpair
  simpa using fails_of_mem_pairs h (List.mem_filter.mp hpair).1

def captured (v : View) : List CapturedPair :=
  v.pairs.map Pair.captured

theorem capture_result (v : View) :
    v.capture.result = if v.fails then none else some v.captured := by
  refine Observed.each_result ?_ v.pairs
  intro pair
  rw [Observed.bind_result, Value.capture_result]
  split <;> rfl

end View

/-! ## Entries -/

namespace Entry

def messageFails (e : Entry) : Bool :=
  !Rendering.completes e.message

def errorFails (e : Entry) : Bool :=
  e.error.any Displayed.fails

/-- Is there anything in the entry that cannot be displayed? The message only counts if it is
displayed at all. -/
def fails (messages : Bool) (e : Entry) : Bool :=
  e.state.fails || (messages && e.messageFails) || e.errorFails

theorem text_result (e : Entry) :
    e.text.result = if e.messageFails then none else some (Rendering.text e.message) := by
  rw [text, Rendering.toText, messageFails]
  cases Rendering.completes e.message <;> rfl

/-- What is seen behind the message of an entry, where messages may be left out. -/
theorem bind_text_result {α : Type} (messages : Bool) (e : Entry)
    (next : Option String → Observed α) :
    (if messages then do next (← some <$> e.text) else do next (← pure none)).result =
      if messages && e.messageFails then none
      else (next (if messages then some (Rendering.text e.message) else none)).result := by
  cases messages with
  | false => rw [if_neg Bool.false_ne_true, Observed.bind_result]; rfl
  | true =>
    rw [if_pos rfl, Observed.bind_result, Observed.map_result, e.text_result, Bool.true_and]
    cases e.messageFails <;> rfl

theorem errorText_result (e : Entry) :
    e.errorText.result = if e.errorFails then none else some (e.error.map Displayed.text) :=
  Observed.optional_result Displayed.toText_result e.error

theorem fails_eq_false_iff (e : Entry) : e.fails true = false ↔
    e.state.fails = false ∧ e.messageFails = false ∧ e.errorFails = false := by
  rw [fails, Bool.true_and, Bool.or_eq_false_iff, Bool.or_eq_false_iff, and_assoc]

/-- The entry with texts in the place of display objects. -/
def captured (messages : Bool) (e : Entry) : CapturedEntry where
  level := e.level
  event := e.event
  pairs := e.state.captured
  message := if messages then some (Rendering.text e.message) else none
  error := e.error.map Displayed.text

theorem capture_result (messages : Bool) (e : Entry) :
    (e.capture messages).result = if e.fails messages then none else some (e.captured messages) := by
  rw [capture, Observed.bind_result, View.capture_result, fails]
  cases e.state.fails with
  | true => rfl
  | false =>
    rw [if_neg Bool.false_ne_true, Option.bind_some, bind_text_result, Bool.false_or]
    cases (messages && e.messageFails) with
    | true => rfl
    | false =>
      rw [if_neg Bool.false_ne_true, Observed.bind_result, errorText_result, Bool.false_or]
      cases e.errorFails <;> rfl

end Entry

end StructuredLog
