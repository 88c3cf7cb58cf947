import StructuredLog.Proofs.Json.Fields
import StructuredLog.Proofs.Template.Slots
import StructuredLog.Sink.TextLines

/-!
# What is displayed of entries

To look at an entry is to display the objects in it, one after the other. If none of them fails, the
objects that begin are told by the order in which the message, the values and the error are looked
at.
-/

namespace StructuredLog

/-! ## Values and renderings -/

/-- The display objects among values, in order. -/
def Value.displays (values : List Value) : List Displayed :=
  values.filterMap Value.display?

theorem Value.displays_append (values values' : List Value) :
    displays (values ++ values') = displays values ++ displays values' :=
  List.filterMap_append

theorem Value.displays_cons (v : Value) (values : List Value) :
    displays (v :: values) = v.display?.toList ++ displays values := by
  rw [displays, displays, List.filterMap_cons]
  cases v.display? <;> rfl

theorem Displayed.started_rendering (object : Displayed) :
    Rendering.started object.rendering = [object] := by
  obtain ⟨chunks, fails⟩ := object
  have hend : Rendering.started (if fails then [.fail] else []) = [] := by cases fails <;> rfl
  rw [rendering, List.cons_append, Rendering.started_start,
    Rendering.started_append (Rendering.completes_map_write chunks), Rendering.started_map_write,
    hend]
  rfl

theorem Value.started_rendering (v : Value) :
    Rendering.started v.rendering = v.display?.toList := by
  cases v with
  | display object => exact object.started_rendering
  | number n => exact n.started_rendering
  | _ => rfl

theorem Rendering.started_flatMap {α : Type} {f : α → Rendering} {xs : List α}
    (h : ∀ x ∈ xs, completes (f x) = true) :
    started (xs.flatMap f) = xs.flatMap fun x => started (f x) := by
  induction xs with
  | nil => rfl
  | cons x xs ih =>
    rw [List.forall_mem_cons] at h
    rw [List.flatMap_cons, started_append h.1, ih h.2, List.flatMap_cons]

namespace Template

theorem Segment.started_rendering (values : Indexed Value) (segment : Segment) :
    Rendering.started (segment.rendering values) =
      (segment.slot?.bind fun i => (values.at? i).bind Value.display?).toList := by
  cases segment with
  | literal start text => rfl
  | slot i =>
    rw [rendering, slot?, Option.bind_some]
    cases values.at? i with
    | none => rfl
    | some v => exact v.started_rendering

/-- If no value that is used fails, each one of these is displayed once, in order. -/
theorem started_rendering {text : String} {t : Template} (h : compile text = .ok t)
    {values : Indexed Value} (hcount : t.arity ≤ values.count)
    (hfails : ∀ v ∈ values.toList.take t.arity, v.fails = false) :
    Rendering.started (t.rendering values) = Value.displays (values.toList.take t.arity) := by
  have hcompletes := (completes_rendering_iff h hcount).mpr hfails
  rw [rendering_eq_segmentsRendering hcount, segmentsRendering] at hcompletes ⊢
  rw [Rendering.completes_flatMap, List.all_eq_true] at hcompletes
  rw [Rendering.started_flatMap hcompletes]
  simp only [Segment.started_rendering]
  rw [← List.filterMap_eq_flatMap_toList, ← List.filterMap_filterMap, filterMap_slot?_segments h,
    ← List.filterMap_filterMap, values.filterMap_at?_range, Value.displays]

end Template

/-! ## Looking on -/

namespace Observed

theorem bind_started_of_some {α β : Type} {x : Observed α} {a : α} (h : x.result = some a)
    (f : α → Observed β) : (x >>= f).started = x.started ++ (f a).started := by
  simp [bind_started, h]

theorem each_started {α β : Type} {f : α → Observed β} {as : List α}
    (h : ∀ a ∈ as, (f a).result ≠ none) :
    (each f as).started = as.flatMap fun a => (f a).started := by
  induction as with
  | nil => rfl
  | cons a as ih =>
    rw [List.forall_mem_cons] at h
    obtain ⟨b, hb⟩ := Option.ne_none_iff_exists'.mp h.1
    rw [each, bind_started_of_some hb, bind_started, ih h.2, List.flatMap_cons]
    cases (each f as).result <;> simp

end Observed

theorem Value.capture_started (v : Value) : v.capture.started = v.display?.toList := by
  cases v with
  | display object =>
    have hcapture : (Value.display object).capture =
        Captured.display <$> Rendering.toText object.rendering := rfl
    rw [hcapture, Observed.map_eq]
    exact object.started_rendering
  | _ => rfl

theorem Value.json_started (v : Value) : v.json.started = v.display?.toList := by
  cases v with
  | display object =>
    have hjson : (Value.display object).json =
        Json.str <$> Rendering.toText object.rendering := rfl
    rw [hjson, Observed.map_eq]
    exact object.started_rendering
  | number n => cases n <;> rfl
  | _ => rfl

/-! ## Pairs -/

theorem View.capture_started {v : View} (h : v.fails = false) :
    v.capture.started = Value.displays (v.pairs.map Pair.value) := by
  have hpair (pair : Pair) : (do return (⟨pair.name, ← pair.value.capture⟩ : CapturedPair)) =
      CapturedPair.mk pair.name <$> pair.value.capture := rfl
  have hresult : ∀ pair ∈ v.pairs,
      (do return (⟨pair.name, ← pair.value.capture⟩ : CapturedPair)).result ≠ none := by
    intro pair hmem
    simp [hpair, Observed.map_result, Value.capture_result, fails_of_mem_pairs h hmem]
  rw [capture, Observed.each_started hresult, Value.displays, List.filterMap_map,
    List.filterMap_eq_flatMap_toList]
  simp only [hpair, Observed.map_eq, Value.capture_started, Function.comp_apply]

theorem Json.collect_started {pairs : List Pair}
    (h : (pairs.any fun pair => pair.value.fails) = false) (members : Members) :
    (collect members pairs).started = Value.displays (pairs.map Pair.value) := by
  induction pairs generalizing members with
  | nil => rfl
  | cons pair rest ih =>
    rw [List.any_cons, Bool.or_eq_false_iff] at h
    have hresult : pair.value.json.result = some pair.value.captured.json := by
      rw [Value.json_result, h.1, if_neg Bool.false_ne_true]
    rw [collect, Observed.bind_started_of_some hresult, ih h.2, Value.json_started, List.map_cons,
      Value.displays_cons]

/-! ## Entries -/

namespace Entry

theorem errorText_started (e : Entry) : e.errorText.started = e.error.toList := by
  rw [errorText]
  cases e.error with
  | none => rfl
  | some error =>
    have hoptional : Observed.optional (fun error => Rendering.toText error.rendering)
        (some error) = some <$> Rendering.toText error.rendering := rfl
    rw [hoptional, Observed.map_eq]
    exact error.started_rendering

/-- What begins before and behind a message, where messages may be left out. -/
theorem bind_text_started {α : Type} {messages : Bool} {e : Entry}
    (h : (messages && e.messageFails) = false) (next : Option String → Observed α) :
    (if messages then do next (← some <$> e.text) else do next (← pure none)).started =
      (if messages then Rendering.started e.message else []) ++
        (next (if messages then some (Rendering.text e.message) else none)).started := by
  cases messages with
  | false => exact Observed.bind_started_of_some rfl next
  | true =>
    have htext : (some <$> e.text).result = some (some (Rendering.text e.message)) := by
      have hfails : e.messageFails = false := h
      rw [Observed.map_result, text_result, hfails]
      rfl
    rw [if_pos rfl, Observed.bind_started_of_some htext, Observed.map_eq]
    rfl

/-- An entry is captured by its values, its message if `messages`, and its error. -/
theorem capture_started {messages : Bool} {e : Entry} (h : e.fails true = false) :
    (e.capture messages).started = Value.displays (e.state.pairs.map Pair.value) ++
      (if messages then Rendering.started e.message else []) ++ e.error.toList := by
  obtain ⟨hstate, hmessage, herror⟩ := e.fails_eq_false_iff.mp h
  have hpairs : e.state.capture.result = some e.state.captured := by
    rw [View.capture_result, hstate, if_neg Bool.false_ne_true]
  rw [capture, Observed.bind_started_of_some hpairs, View.capture_started hstate,
    bind_text_started (by rw [hmessage, Bool.and_false]), Observed.bind_started, errorText_started,
    errorText_result, herror]
  simp

end Entry

/-- A line of text shows the message and the error, and no values. -/
theorem TextLines.line_started {e : Entry} (h : e.fails true = false) (s : TextLines) :
    (s.line e).started = Rendering.started e.message ++ e.error.toList := by
  obtain ⟨-, hmessage, herror⟩ := e.fails_eq_false_iff.mp h
  have htext : e.text.result = some (Rendering.text e.message) := by
    rw [e.text_result, hmessage, if_neg Bool.false_ne_true]
  have hstarted : e.text.started = Rendering.started e.message := rfl
  rw [line, Observed.bind_started_of_some htext, Observed.bind_started, e.errorText_started,
    e.errorText_result, herror, hstarted]
  simp

/-- A line of JSON shows the message if messages are shown, the values of the fields and the
error. -/
theorem JsonLines.line_started {e : Entry} (h : e.fails true = false) (s : JsonLines) :
    (s.line e).started = (if s.messages then Rendering.started e.message else []) ++
      Value.displays (e.state.fields.map Pair.value) ++ e.error.toList := by
  obtain ⟨hstate, hmessage, herror⟩ := e.fails_eq_false_iff.mp h
  have hpairs := View.any_fails_fields hstate
  have hfields : (Json.fields e.state.fields).result =
      some (Json.gathered (e.state.fields.map Pair.captured)) := by
    rw [Json.fields_result, hpairs, if_neg Bool.false_ne_true]
  have hline : s.line e = (fun object => object.render ++ "\n") <$> s.object e := rfl
  rw [hline, Observed.map_eq, object, Entry.bind_text_started (by rw [hmessage, Bool.and_false]),
    Observed.bind_started_of_some hfields, Json.fields, Json.collect_started hpairs,
    Observed.bind_started, e.errorText_started, e.errorText_result, herror]
  simp

end StructuredLog
