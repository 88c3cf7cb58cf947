import StructuredLog.Proofs.Rendering.Writers
import StructuredLog.Proofs.Template.Slots

/-!
# Outcomes of rendering

A template is rendered into a text, into a writer, or when it is displayed. All three fail at once
if values are missing, write the filled template if no value of a slot fails, and otherwise stop
behind what the first of these values has written.
-/

namespace StructuredLog

namespace Template

/-! ## The part before a slot -/

/-- The pattern up to its slot with this index. -/
def Pattern.upTo (p : Pattern) (index : Nat) : Pattern :=
  ⟨p.first, p.slots.take index⟩

theorem Pattern.length_slots_upTo {p : Pattern} {index : Nat} (h : index ≤ p.slots.length) :
    (p.upTo index).slots.length = index :=
  List.length_take_of_le h

theorem slotSegments_append_cons (offset index : Nat) (before : List Slot) (slot : Slot)
    (after : List Slot) :
    ∃ rest, Scan.slotSegments offset index (before ++ slot :: after) =
      Scan.slotSegments offset index before ++ .slot (index + before.length) :: rest := by
  induction before generalizing offset index with
  | nil => exact ⟨_, rfl⟩
  | cons first before ih =>
    obtain ⟨rest, hrest⟩ := ih (offset + Text.byteSize first.source.toList) (index + 1)
    refine ⟨rest, ?_⟩
    rw [List.cons_append, Scan.slotSegments, Scan.slotSegments, hrest, List.length_cons,
      Nat.add_assoc, Nat.add_comm 1]
    simp

theorem Pattern.segments_eq_upTo {p : Pattern} {index : Nat} (h : index < p.slots.length) :
    ∃ rest, p.segments = (p.upTo index).segments ++ .slot index :: rest := by
  have hlength : (p.slots.take index).length = index := length_slots_upTo (Nat.le_of_lt h)
  obtain ⟨rest, hrest⟩ := slotSegments_append_cons (Text.byteSize (escape p.first).toList) 0
    (p.slots.take index) p.slots[index] (p.slots.drop (index + 1))
  refine ⟨rest, ?_⟩
  rw [← List.drop_eq_getElem_cons h, List.take_append_drop, hlength, Nat.zero_add] at hrest
  rw [segments, segments, hrest, List.append_assoc]
  rfl

/-- The rendering stops in the first value that fails. -/
theorem Pattern.segmentsRendering_of_fails {p : Pattern} {values : Indexed Value} {index : Nat}
    {v : Value} (hindex : index < p.slots.length) (hat : values.at? index = some v)
    (hv : v.fails = true) (hbefore : ∀ u ∈ values.toList.take index, u.fails = false) :
    Rendering.completes (p.compiled.segmentsRendering values) = false ∧
      Rendering.text (p.compiled.segmentsRendering values) =
        (p.upTo index).fill (values.toList.map Value.text) ++ v.text := by
  have hlength : (p.upTo index).slots.length = index := length_slots_upTo (Nat.le_of_lt hindex)
  have hcount : index < values.count := by
    rw [← values.isSome_at?_iff, hat]
    rfl
  obtain ⟨hcompletes, htext⟩ := Rendering.toText_eq_some_iff.mp
    ((p.upTo index).toText_segmentsRendering values (by omega) (by rwa [hlength]))
  obtain ⟨rest, hrest⟩ := Pattern.segments_eq_upTo hindex
  have hstop : Rendering.completes v.rendering = false := by simpa [Value.fails] using hv
  have hsplit : p.compiled.segmentsRendering values =
      (p.upTo index).compiled.segmentsRendering values ++
        (v.rendering ++ rest.flatMap (Segment.rendering values)) := by
    show p.segments.flatMap _ = (p.upTo index).segments.flatMap _ ++ _
    rw [hrest, List.flatMap_append, List.flatMap_cons, Segment.rendering, hat]
  refine ⟨?_, ?_⟩
  · rw [hsplit, Rendering.completes_append, Rendering.completes_append, hstop, Bool.false_and,
      Bool.and_false]
  · rw [hsplit, Rendering.text_append hcompletes, Rendering.text_append_of_fails hstop, htext]
    rfl

/-! ## Three ways to render -/

section Outcomes

variable (t : Template) (values : Indexed Value)

/-- There are not enough values, and nothing is started or written. -/
structure LacksValues : Prop where
  checkValues_eq : t.checkValues values = .error (.notEnoughValues t.arity values.count)
  render_eq : t.render values = .error (.notEnoughValues t.arity values.count)
  deliver_eq : ∀ {σ : Type} (accept : σ → String → Option σ) (s : σ),
    Rendering.deliver accept s (t.rendering values) = (s, false)
  toText_eq : Rendering.toText (t.rendering values) = ⟨[], none⟩

/-- Every way of rendering gives this text. -/
structure GivesText (text : String) : Prop where
  render_eq : t.render values = .ok text
  deliver_eq : Rendering.deliver Rendering.appended "" (t.rendering values) = (text, true)
  toText_result : (Rendering.toText (t.rendering values)).result = some text

/-- Every way of rendering fails, those that write as they go when this is written. -/
structure BreaksOff (written : String) : Prop where
  render_eq : t.render values = .error .format
  deliver_eq : Rendering.deliver Rendering.appended "" (t.rendering values) = (written, false)
  toText_result : (Rendering.toText (t.rendering values)).result = none

variable {t values}

theorem lacksValues_of_lt (h : values.count < t.arity) : t.LacksValues values := by
  have hcheck : t.checkValues values = .error (.notEnoughValues t.arity values.count) := if_pos h
  have hrendering : t.rendering values = [.fail] := by rw [rendering, hcheck]
  refine ⟨hcheck, ?_, ?_, ?_⟩
  · rw [render, hcheck]
    rfl
  · intro σ accept s
    rw [hrendering]
    rfl
  · rw [hrendering]
    rfl

theorem givesText_of_toText {text : String} (hcount : t.arity ≤ values.count)
    (h : (Rendering.toText (t.segmentsRendering values)).result = some text) :
    t.GivesText values text := by
  obtain ⟨hcompletes, htext⟩ := Rendering.toText_eq_some_iff.mp h
  refine ⟨render_eq_ok hcount h, ?_, ?_⟩
  · rw [rendering_eq_segmentsRendering hcount, Rendering.deliver_appended, hcompletes, htext,
      String.empty_append]
  · rw [rendering_eq_segmentsRendering hcount, h]

theorem breaksOff_of_completes {written : String} (hcount : t.arity ≤ values.count)
    (hcompletes : Rendering.completes (t.segmentsRendering values) = false)
    (htext : Rendering.text (t.segmentsRendering values) = written) :
    t.BreaksOff values written := by
  have hnone := Rendering.toText_result_eq_none_iff.mpr hcompletes
  refine ⟨?_, ?_, ?_⟩
  · rw [render, checkValues_eq_ok hcount, hnone]
    rfl
  · rw [rendering_eq_segmentsRendering hcount, Rendering.deliver_appended, hcompletes, htext,
      String.empty_append]
  · rw [rendering_eq_segmentsRendering hcount, hnone]

theorem render_congr {values' : Indexed Value} (hcount : t.arity ≤ values.count)
    (hcount' : t.arity ≤ values'.count) (h : t.rendering values = t.rendering values') :
    t.render values = t.render values' := by
  rw [rendering_eq_segmentsRendering hcount, rendering_eq_segmentsRendering hcount'] at h
  rw [render, render, checkValues_eq_ok hcount, checkValues_eq_ok hcount', h]

end Outcomes

/-- Rendering into a text, into a writer and on display agree, whatever the values. If there are
fewer than slots, all fail before anything is written. Otherwise only the values of the slots are
used: if none of them fails, all give the filled pattern, and else all fail, having written the
pattern before the first slot whose value fails, and what this value writes. -/
theorem renderings_agree {text : String} {t : Template} (h : compile text = .ok t)
    (values : Indexed Value) :
    (values.count < t.arity → t.LacksValues values) ∧
    (t.arity ≤ values.count →
      t.checkValues values = .ok () ∧
      (∃ p : Pattern, p.source = text ∧
        ((∀ v ∈ values.toList.take t.arity, v.fails = false) →
          t.GivesText values (p.fill (values.toList.map Value.text))) ∧
        ∀ i v, i < t.arity → values.at? i = some v → v.fails = true →
          (∀ u ∈ values.toList.take i, u.fails = false) →
          t.BreaksOff values ((p.upTo i).fill (values.toList.map Value.text) ++ v.text)) ∧
      ∀ values' : Indexed Value, t.arity ≤ values'.count →
        (∀ i < t.arity, values.at? i = values'.at? i) →
        t.render values = t.render values' ∧ t.rendering values = t.rendering values') := by
  refine ⟨lacksValues_of_lt, ?_⟩
  intro hcount
  obtain ⟨p, hp, rfl⟩ := compile_eq_ok_iff.mp h
  refine ⟨checkValues_eq_ok hcount, ⟨p, hp, ?_, ?_⟩, ?_⟩
  · intro hfails
    rw [p.arity_compiled] at hfails
    exact givesText_of_toText hcount
      (p.toText_segmentsRendering values (p.arity_compiled ▸ hcount) hfails)
  · intro i v hi hat hv hbefore
    rw [p.arity_compiled] at hi
    obtain ⟨hcompletes, htext⟩ := p.segmentsRendering_of_fails hi hat hv hbefore
    exact breaksOff_of_completes hcount hcompletes htext
  · intro values' hcount' hat
    have hrendering : p.compiled.rendering values = p.compiled.rendering values' := by
      rw [rendering_eq_segmentsRendering hcount, rendering_eq_segmentsRendering hcount']
      exact segmentsRendering_congr fun i hi => hat i ((slot_mem_segments_iff h i).mp hi)
    exact ⟨render_congr hcount hcount' hrendering, hrendering⟩

/-- The second value gives up half-way; the third one would fail too, but no slot takes it. -/
theorem renderings_agree_half_value :
    let values : Indexed Value :=
      .ofList [.str "x", .display ⟨["par", "t"], true⟩, .display ⟨[], true⟩]
    ∃ t, compile "é\x7b\x7b\x7ba\x7d-\x7bb\x7d" = .ok t ∧ t.arity ≤ values.count ∧
      t.BreaksOff values "é\x7bx-part" := by
  intro values
  have h : compile "é\x7b\x7b\x7ba\x7d-\x7bb\x7d" = .ok ⟨"é\x7b\x7b\x7ba\x7d-\x7bb\x7d",
      [.literal 0 "é\x7b", .slot 0, .literal 7 "-", .slot 1], ["a", "b"]⟩ := rfl
  let p : Pattern := ⟨"é\x7b", [⟨"a", "-", by decide, by decide, by decide⟩,
    ⟨"b", "", by decide, by decide, by decide⟩]⟩
  have hcount : 2 ≤ values.count := by decide
  obtain ⟨-, hrest⟩ := renderings_agree h values
  obtain ⟨-, ⟨q, hq, -, hbreaks⟩, -⟩ := hrest hcount
  have hp : p.source = "é\x7b\x7b\x7ba\x7d-\x7bb\x7d" := by decide
  obtain rfl : q = p := Pattern.source_injective (hq.trans hp.symm)
  have hbefore : ∀ u ∈ values.toList.take 1, u.fails = false := by
    rw [Indexed.toList_ofList]
    decide
  have hbroken := hbreaks 1 _ (by decide) rfl rfl hbefore
  rw [Indexed.toList_ofList] at hbroken
  exact ⟨_, h, hcount, hbroken⟩

end Template

end StructuredLog
