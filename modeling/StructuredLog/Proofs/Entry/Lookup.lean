import StructuredLog.Proofs.Entry.Captured

/-!
# Looking at captured entries

Looking up a name and capturing what is found gives the same as capturing everything and looking up
the name. So a captured entry shows what the view showed, with texts in the place of display
objects.
-/

namespace StructuredLog

/-! ## Looking up what was captured -/

theorem Value.str?_captured (v : Value) : v.captured.str? = v.str? := by
  cases v <;> rfl

theorem Value.toText_result (v : Value) :
    (Rendering.toText v.rendering).result = if v.fails then none else some v.captured.text := by
  rw [Rendering.toText, fails, v.text_captured, text]
  cases Rendering.completes v.rendering <;> rfl

namespace View

/-- What is found under a name is a value of the view. -/
theorem any_fails_get? {v : View} (h : v.fails = false) (name : String) :
    (v.get? name).any Value.fails = false := by
  rw [Option.any_eq_false]
  intro value hvalue
  rw [get?_eq_find?, Option.map_eq_some_iff] at hvalue
  obtain ⟨pair, hfind, rfl⟩ := hvalue
  simpa using fails_of_mem_pairs h (List.mem_of_find?_eq_some hfind)

/-- A name stays the same when its pair is captured, so the first match stays the first. -/
theorem find?_captured (v : View) (name : String) :
    (v.captured.find? fun pair => pair.name == name).map CapturedPair.value =
      (v.get? name).map Value.captured := by
  rw [captured, List.find?_map, get?_eq_find?, Option.map_map, Option.map_map]
  rfl

end View

/-! ## Captured entries -/

namespace CapturedEntry

/-- The entry shows what the view shows, with texts in the place of display objects. -/
structure Mirrors (c : CapturedEntry) (v : View) : Prop where
  names_eq : c.names = v.pairs.map Pair.name
  /-- What is captured of the first match is the first match in what is captured. -/
  capture_get? : ∀ name,
    (Observed.optional Value.capture (v.get? name)).result = some (c.get? name)
  template?_eq : c.template? = v.template?
  /-- Every value writes what was written by the one that it was captured from. -/
  texts_eq : c.pairs.map (fun pair => some pair.value.text) =
    v.pairs.map fun pair => (Rendering.toText pair.value.rendering).result

theorem get?_captured (messages : Bool) (e : Entry) (name : String) :
    (e.captured messages).get? name = (e.state.get? name).map Value.captured :=
  e.state.find?_captured name

theorem mirrors_captured (messages : Bool) {e : Entry} (h : e.state.fails = false) :
    (e.captured messages).Mirrors e.state := by
  refine ⟨?_, ?_, ?_, ?_⟩
  · show (e.state.pairs.map Pair.captured).map CapturedPair.name = _
    rw [List.map_map]
    rfl
  · intro name
    rw [Observed.optional_result Value.capture_result, View.any_fails_get? h, get?_captured]
    rfl
  · rw [template?, get?_captured, View.template?, Option.bind_map]
    exact congrArg _ (funext Value.str?_captured)
  · show (e.state.pairs.map Pair.captured).map _ = _
    rw [List.map_map]
    apply List.map_congr_left
    intro pair hpair
    rw [Value.toText_result, View.fails_of_mem_pairs h hpair]
    rfl

end CapturedEntry

/-- A sink that remembers keeps of every entry in which nothing fails what can be seen on its view:
the names in order, under each name the first value or none, the template, and what every value
writes. -/
theorem Memory.log_mirrors (s : Memory) (e : Entry) (h : e.fails s.rendering = false) :
    ∃ c, (s.log e).1.result = some () ∧ (s.log e).2.entries = s.entries ++ [c] ∧
      c.Mirrors e.state := by
  have hstate : e.state.fails = false := by
    rw [Entry.fails, Bool.or_eq_false_iff, Bool.or_eq_false_iff] at h
    exact h.1.1
  have hcapture : (e.capture s.rendering).result = some (e.captured s.rendering) := by
    rw [e.capture_result, h]
    rfl
  refine ⟨e.captured s.rendering, ?_, ?_, CapturedEntry.mirrors_captured s.rendering hstate⟩
  · rw [Memory.log, hcapture]
  · rw [Memory.log, hcapture]

/-- The first of two pairs under the name of the template holds no text. The second one does, but
neither the entry nor what is captured of it has a template. -/
theorem Memory.log_mirrors_hidden_template :
    let first : Pair := ⟨originalFormat, .display ⟨["a", "b"], false⟩⟩
    let e : Entry := ⟨.info, ⟨7, none⟩, .ofList [first, ⟨originalFormat, .str "t"⟩], [], none⟩
    let s : Memory := {}
    e.fails s.rendering = false ∧ e.state.template? = none ∧
      ∃ c, (s.log e).2.entries = [c] ∧ c.names = [originalFormat, originalFormat] ∧
        c.get? originalFormat = some (.display "ab") ∧ c.template? = none := by
  intro first e s
  have hpairs : e.state.pairs = [first, ⟨originalFormat, .str "t"⟩] := View.pairs_ofList _
  have h : e.fails s.rendering = false := by
    rw [Entry.fails, View.fails, hpairs]
    rfl
  obtain ⟨c, -, hentries, hc⟩ := s.log_mirrors e h
  refine ⟨h, rfl, c, hentries, ?_, ?_, ?_⟩
  · rw [hc.names_eq, hpairs]
    rfl
  · exact (Option.some.inj (hc.capture_get? originalFormat)).symm
  · rw [hc.template?_eq]
    rfl

end StructuredLog
