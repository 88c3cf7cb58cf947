import StructuredLog.Proofs.Sink.MemoryEntries

/-!
# Recovering the text of a call

What is remembered of a call shows its template un-rendered next to the values. The template
compiles again, and the texts of the values, put into it, give the message that was remembered.
-/

namespace StructuredLog

theorem Value.text_str (text : String) : (Value.str text).text = text := by
  simp [Value.text, rendering]

/-- A template shows the same with values as with their texts. -/
theorem Template.render_texts {text : String} {t : Template} (h : compile text = .ok t)
    {values : Indexed Value} (hcount : t.arity ≤ values.count)
    (hfails : ∀ v ∈ values.toList.take t.arity, v.fails = false) :
    t.render (.ofList (values.toList.map fun v => .str v.text)) =
      .ok (Rendering.text (t.rendering values)) := by
  obtain ⟨p, -, rfl⟩ := compile_eq_ok_iff.mp h
  rw [rendering_eq_segmentsRendering hcount]
  rw [p.arity_compiled] at hcount hfails
  have htext : Rendering.text (p.compiled.segmentsRendering values) =
      p.fill (values.toList.map Value.text) :=
    (Rendering.toText_eq_some_iff.mp (p.toText_segmentsRendering values hcount hfails)).2
  have htexts : ∀ v ∈ (values.toList.map fun v => Value.str v.text).take p.slots.length,
      v.fails = false := by
    intro v hv
    obtain ⟨w, -, rfl⟩ := List.mem_map.mp (List.mem_of_mem_take hv)
    rfl
  rw [htext, p.render_compiled _ (by simpa [Indexed.ofList] using hcount) (by simpa using htexts)]
  simp [Function.comp_def, Value.text_str]

namespace Message

variable {arity : Nat} {level : Level} {event : EventId} {template : String} {names : List String}
  {m : Message arity} {args : Vector Value arity}

theorem map_text_captured (args : Vector Value arity) (m : Message arity) :
    (m.state args).captured.map (fun pair => Value.str pair.value.text) =
      (m.state args).values.toList.map fun v => .str v.text := by
  simp [View.captured, Pair.captured, Function.comp_def, Value.text_captured]

/-- A call of a message that could be defined, in which no argument fails, is remembered if its
level is enabled and its error does not fail. The text of the last pair compiles then, and the
template with the texts of all pairs gives the message. Its slots have the names of the first
pairs. -/
theorem captured_pairs_determine_message
    (h : define arity level event template names = .ok m)
    (hargs : ∀ v ∈ args.toList, v.fails = false) (error : Option Displayed) {s : Memory}
    (hrendering : s.rendering = true) :
    ∃ c last t message,
      (m.log args error s).2.entries = s.entries ++
        (if s.minLevel.any (· ≤ m.level) = true ∧ error.any Displayed.fails = false then [c]
          else []) ∧
      c.pairs.getLast? = some last ∧ Template.compile last.value.text = .ok t ∧
      c.message = some message ∧
      t.render (.ofList (c.pairs.map fun pair => .str pair.value.text)) = .ok message ∧
      t.names <+: c.names := by
  have hd := defined_of_define level event h
  refine ⟨(m.entry args error).captured true, ⟨originalFormat, .str m.template.original⟩,
    m.template, Rendering.text (m.rendering args), ?_, ?_, ?_, rfl, ?_, ?_⟩
  · rw [(Memory.message_log_eq m args error s).2, Step.recorded?, Entry.recorded?, hrendering,
      hd.fails_entry hargs]
    cases s.minLevel.any (· ≤ m.level) <;> cases error.any Displayed.fails <;> simp
  · show (m.state args).captured.getLast? = _
    rw [captured_state, capturedPairs, List.getLast?_concat]
  · show Template.compile m.template.original = _
    rw [Template.original_of_compile hd.compile_eq, hd.compile_eq]
  · show m.template.render
      (.ofList ((m.state args).captured.map fun pair => .str pair.value.text)) = _
    rw [map_text_captured, Template.render_texts hd.compile_eq (hd.arity_le_count_state args)
      (hd.fails_of_mem_take hargs)]
    rfl
  · have hnames : ((m.entry args error).captured true).names =
        m.template.names ++ (names ++ [originalFormat]) := by
      show (m.state args).captured.map CapturedPair.name = _
      rw [View.captured, List.map_map, pairs_state, List.map_append, ← List.append_assoc,
        ← hd.names_eq, ← m.map_name_argumentPairs args]
      rfl
    rw [hnames]
    exact List.prefix_append _ _

/-- A display object is formatted, a number is not, and the template has quoted braces. -/
theorem captured_pairs_determine_greeting :
    let args : Vector Value 2 := #v[.display ⟨["al", "ice"], false⟩, .number (.int 5)]
    (∀ v ∈ args.toList, v.fails = false) ∧
    ∃ m, define 2 .info ⟨7, none⟩ "\x7b\x7bhi\x7d\x7d \x7buser\x7d" ["size"] = .ok m ∧
      ∃ c last t message, (m.log args none ({} : Memory)).2.entries = [c] ∧
        c.pairs.getLast? = some last ∧ Template.compile last.value.text = .ok t ∧
        c.message = some message ∧
        t.render (.ofList (c.pairs.map fun pair => .str pair.value.text)) = .ok message ∧
        t.names <+: c.names := by
  intro args
  have hargs : ∀ v ∈ args.toList, v.fails = false := by
    simp [args, Value.fails_display, Value.fails_number]
  have h : define 2 .info ⟨7, none⟩ "\x7b\x7bhi\x7d\x7d \x7buser\x7d" ["size"] =
      .ok ⟨.info, ⟨7, none⟩, ⟨"\x7b\x7bhi\x7d\x7d \x7buser\x7d",
        [.literal 0 "\x7b", .literal 2 "hi\x7d", .literal 6 " ", .slot 0], ["user"]⟩,
        #v["user", "size"]⟩ := rfl
  obtain ⟨c, last, t, message, hentries, hcaptured⟩ :=
    captured_pairs_determine_message h hargs none (s := {}) rfl
  exact ⟨hargs, _, h, c, last, t, message, hentries, hcaptured⟩

end Message

end StructuredLog
