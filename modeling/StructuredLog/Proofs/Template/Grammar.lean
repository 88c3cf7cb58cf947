import StructuredLog.Proofs.Template.Rendering
import StructuredLog.View

/-!
# The grammar of templates

The sources of patterns are exactly the texts that compile, and the compiled template has the names
of the pattern and renders to the filled pattern.
-/

namespace StructuredLog.Template

/-! ## Compiled patterns -/

/-- What compiling makes of the source of a pattern. -/
def Pattern.compiled (p : Pattern) : Template where
  original := p.source
  segments := p.segments
  names := p.names

theorem Pattern.compile_source (p : Pattern) : compile p.source = .ok p.compiled := by
  obtain ⟨s, hscan, hsegments, hnames⟩ := p.scan_source
  simp [compile, hscan, hsegments, hnames, compiled]

theorem compile_eq_ok_iff {text : String} {t : Template} :
    compile text = .ok t ↔ ∃ p : Pattern, p.source = text ∧ t = p.compiled := by
  constructor
  · intro h
    have hscan : ∃ s, scan text.toList = .ok s := by
      rw [compile] at h
      split at h
      · exact ⟨_, by assumption⟩
      · cases h
    obtain ⟨s, hs⟩ := hscan
    obtain ⟨p, rfl⟩ := exists_pattern_of_scan hs
    rw [p.compile_source] at h
    exact ⟨p, rfl, (Except.ok.inj h).symm⟩
  · rintro ⟨p, rfl, rfl⟩
    exact p.compile_source

theorem original_of_compile {text : String} {t : Template} (h : compile text = .ok t) :
    t.original = text := by
  obtain ⟨p, hp, rfl⟩ := compile_eq_ok_iff.mp h
  exact hp

@[simp] theorem Pattern.arity_compiled (p : Pattern) : p.compiled.arity = p.slots.length := by
  simp [arity, compiled, names]

theorem head?_of_mem_names {text : String} {t : Template} (h : compile text = .ok t) {name : String}
    (hn : name ∈ t.names) : name.toList.head? ≠ some '{' := by
  obtain ⟨p, -, rfl⟩ := compile_eq_ok_iff.mp h
  obtain ⟨slot, -, rfl⟩ := List.mem_map.mp hn
  exact slot.head?_name

/-- No slot has the name under which a message shows its template. -/
theorem ne_originalFormat_of_mem_names {text : String} {t : Template} (h : compile text = .ok t)
    {name : String} (hn : name ∈ t.names) : name ≠ originalFormat := by
  rintro rfl
  exact head?_of_mem_names h hn rfl

/-! ## Their renderings -/

theorem Pattern.toText_segmentsRendering (p : Pattern) (values : Indexed Value)
    (hcount : p.slots.length ≤ values.count)
    (hfails : ∀ v ∈ values.toList.take p.slots.length, v.fails = false) :
    (Rendering.toText (p.compiled.segmentsRendering values)).result =
      some (p.fill (values.toList.map Value.text)) := by
  have hfirst := toText_literalSegments values 0 0 "" p.first.toList
  have hslots := toText_slotSegments values (Text.byteSize (escape p.first).toList) 0 p.slots
    (by omega) (by simpa using hfails)
  have h := Rendering.toText_append hfirst hslots
  simpa [segmentsRendering, compiled, segments, fill] using h

theorem render_eq_ok {t : Template} {values : Indexed Value} {text : String}
    (hcount : t.arity ≤ values.count)
    (htext : (Rendering.toText (t.segmentsRendering values)).result = some text) :
    t.render values = .ok text := by
  have hcheck : t.checkValues values = .ok () := by
    rw [checkValues, if_neg (by omega)]
  simp only [render, hcheck, htext]
  rfl

theorem Pattern.render_compiled (p : Pattern) (values : Indexed Value)
    (hcount : p.slots.length ≤ values.count)
    (hfails : ∀ v ∈ values.toList.take p.slots.length, v.fails = false) :
    p.compiled.render values = .ok (p.fill (values.toList.map Value.text)) := by
  apply render_eq_ok
  · rw [p.arity_compiled]
    exact hcount
  · exact p.toText_segmentsRendering values hcount hfails

/-- Texts beyond the slots are not used. -/
theorem Pattern.fill_take (p : Pattern) (texts : List String) :
    p.fill (texts.take p.slots.length) = p.fill texts := by
  have h : ∀ (slots : List Slot) (texts : List String),
      List.zipWith (fun slot text => text ++ slot.literal) slots (texts.take slots.length) =
        List.zipWith (fun slot text => text ++ slot.literal) slots texts := by
    intro slots
    induction slots with
    | nil => simp
    | cons slot slots ih =>
      intro texts
      cases texts with
      | nil => rfl
      | cons text texts => simp [ih]
  rw [fill, fill, h]

/-- A text compiles exactly if it is the source of a pattern, which there is only one of. The names
of the template are those of the pattern, and values that do not fail stand in it verbatim. -/
theorem compile_accepts_sources (text : String) :
    ((∃ t, compile text = .ok t) ↔ ∃ p : Pattern, p.source = text) ∧
    (∀ p q : Pattern, p.source = text → q.source = text → p = q) ∧
    ∀ (t : Template) (p : Pattern), compile text = .ok t → p.source = text →
      t.names = p.names ∧
      (∀ name ∈ t.names, name.toList.head? ≠ some '{' ∧ name ≠ originalFormat) ∧
      ∀ values : List Value, p.slots.length ≤ values.length →
        (∀ v ∈ values.take p.slots.length, v.fails = false) →
        t.render (.ofList values) =
          .ok (p.fill ((values.take p.slots.length).map Value.text)) := by
  refine ⟨⟨?_, ?_⟩, ?_, ?_⟩
  · rintro ⟨t, h⟩
    obtain ⟨p, hp, -⟩ := compile_eq_ok_iff.mp h
    exact ⟨p, hp⟩
  · rintro ⟨p, rfl⟩
    exact ⟨p.compiled, p.compile_source⟩
  · intro p q hp hq
    exact Pattern.source_injective (hp.trans hq.symm)
  · rintro t p h rfl
    refine ⟨?_, ?_, ?_⟩
    · rw [← Except.ok.inj (p.compile_source.symm.trans h)]
      rfl
    · intro name hn
      exact ⟨head?_of_mem_names h hn, ne_originalFormat_of_mem_names h hn⟩
    · intro values hcount hfails
      rw [← Except.ok.inj (p.compile_source.symm.trans h), List.map_take, p.fill_take]
      simpa using p.render_compiled (.ofList values) hcount (by simpa using hfails)

end StructuredLog.Template
