import Mathlib.Data.List.Basic
import StructuredLog.Proofs.Template.Grammar

/-!
# The slots of a template

The slots of a compiled template take the values from the front, each one once. So its rendering
reads just as many values as it has slots, and fails exactly if one of these does.
-/

namespace StructuredLog

/-! ## Writers and failures -/

namespace Rendering

theorem completes_flatMap {α : Type} (f : α → Rendering) (xs : List α) :
    completes (xs.flatMap f) = xs.all fun x => completes (f x) := by
  simp [completes, List.all_flatMap]

/-- With a writer that never refuses, only the rendering itself can fail. -/
theorem deliver_snd_of_accepting {σ : Type} {accept : σ → String → Option σ}
    (h : ∀ s piece, (accept s piece).isSome = true) (s : σ) (r : Rendering) :
    (deliver accept s r).2 = completes r := by
  induction r generalizing s with
  | nil => rfl
  | cons a r ih =>
    cases a with
    | start object => exact ih s
    | fail => rfl
    | write piece =>
      obtain ⟨s', hs'⟩ := Option.isSome_iff_exists.mp (h s piece)
      rw [deliver, hs']
      exact ih s'

end Rendering

namespace Template

/-! ## Slots among the segments -/

def Segment.slot? : Segment → Option Nat
  | .literal _ _ => none
  | .slot index => some index

theorem filterMap_slot?_literal (start : Nat) (text : String) :
    (literal start text).filterMap Segment.slot? = [] := by
  unfold literal
  split <;> rfl

theorem filterMap_slot?_literalSegments (offset start : Nat) (before : String) (cs : List Char) :
    (Scan.literalSegments offset start before cs).filterMap Segment.slot? = [] := by
  induction cs generalizing offset start before with
  | nil => exact filterMap_slot?_literal start before
  | cons c cs ih =>
    rw [Scan.literalSegments]
    split
    · rw [List.filterMap_append, filterMap_slot?_literal, ih, List.append_nil]
    · exact ih _ _ _

theorem filterMap_slot?_slotSegments (offset index : Nat) (slots : List Slot) :
    (Scan.slotSegments offset index slots).filterMap Segment.slot? =
      List.range' index slots.length := by
  induction slots generalizing offset index with
  | nil => rfl
  | cons slot slots ih =>
    have hslot : Segment.slot? (.slot index) = some index := rfl
    rw [Scan.slotSegments, List.filterMap_cons_some hslot, List.filterMap_append,
      filterMap_slot?_literalSegments, ih, List.nil_append, List.length_cons, List.range'_succ]

/-- The slots count up from zero in the order in which they stand. -/
theorem filterMap_slot?_segments {text : String} {t : Template} (h : compile text = .ok t) :
    t.segments.filterMap Segment.slot? = List.range t.arity := by
  obtain ⟨p, -, rfl⟩ := compile_eq_ok_iff.mp h
  show p.segments.filterMap Segment.slot? = _
  rw [Pattern.segments, List.filterMap_append, filterMap_slot?_literalSegments,
    filterMap_slot?_slotSegments, p.arity_compiled, List.range_eq_range', List.nil_append]

theorem slot_mem_segments_iff {text : String} {t : Template} (h : compile text = .ok t) (i : Nat) :
    .slot i ∈ t.segments ↔ i < t.arity := by
  rw [← List.mem_range, ← filterMap_slot?_segments h, List.mem_filterMap]
  constructor
  · intro hi
    exact ⟨.slot i, hi, rfl⟩
  · rintro ⟨segment, hsegment, hi⟩
    cases segment with
    | literal => cases hi
    | slot index =>
      cases hi
      exact hsegment

/-! ## The values that are used -/

theorem segmentsRendering_congr {t : Template} {values values' : Indexed Value}
    (h : ∀ i, .slot i ∈ t.segments → values.at? i = values'.at? i) :
    t.segmentsRendering values = t.segmentsRendering values' := by
  apply List.flatMap_congr
  intro segment hsegment
  cases segment with
  | literal => rfl
  | slot i => rw [Segment.rendering, Segment.rendering, h i hsegment]

theorem checkValues_eq_ok {t : Template} {values : Indexed Value} (h : t.arity ≤ values.count) :
    t.checkValues values = .ok () :=
  if_neg (by omega)

theorem rendering_eq_segmentsRendering {t : Template} {values : Indexed Value}
    (h : t.arity ≤ values.count) : t.rendering values = t.segmentsRendering values := by
  rw [rendering, checkValues_eq_ok h]

/-- Enough values that agree as far as the slots reach are rendered alike. -/
theorem rendering_congr {text : String} {t : Template} (h : compile text = .ok t)
    {values values' : Indexed Value} (hcount : t.arity ≤ values.count)
    (hcount' : t.arity ≤ values'.count)
    (htake : values.toList.take t.arity = values'.toList.take t.arity) :
    t.rendering values = t.rendering values' := by
  rw [rendering_eq_segmentsRendering hcount, rendering_eq_segmentsRendering hcount']
  apply segmentsRendering_congr
  intro i hi
  have hlt : i < t.arity := (slot_mem_segments_iff h i).mp hi
  have hget := congrArg (fun vs : List Value => vs[i]?) htake
  simpa [List.getElem?_take_of_lt hlt] using hget

/-- Every slot is written, and a slot writes its value, so each of the values can make the rendering
fail and nothing else can. -/
theorem completes_rendering_iff {text : String} {t : Template} (h : compile text = .ok t)
    {values : Indexed Value} (hcount : t.arity ≤ values.count) :
    Rendering.completes (t.rendering values) = true ↔
      ∀ v ∈ values.toList.take t.arity, v.fails = false := by
  rw [rendering_eq_segmentsRendering hcount, segmentsRendering, Rendering.completes_flatMap,
    List.all_eq_true]
  have hslot {i : Nat} (hi : i < t.arity) :
      ∃ v, values.at? i = some v ∧ (values.toList.take t.arity)[i]? = some v := by
    have hlength : i < values.toList.length := by
      rw [values.length_toList]
      omega
    refine ⟨values.toList[i], ?_, ?_⟩
    · rw [← values.getElem?_toList, List.getElem?_eq_getElem hlength]
    · rw [List.getElem?_take_of_lt hi, List.getElem?_eq_getElem hlength]
  constructor
  · intro hall v hv
    obtain ⟨i, hi⟩ := List.mem_iff_getElem?.mp hv
    have hlt : i < t.arity := by
      have hlength := (List.getElem?_eq_some_iff.mp hi).1
      rw [List.length_take] at hlength
      omega
    obtain ⟨w, hat, hw⟩ := hslot hlt
    obtain rfl : v = w := Option.some.inj (hi.symm.trans hw)
    have hc := hall (.slot i) ((slot_mem_segments_iff h i).mpr hlt)
    rw [Segment.rendering, hat] at hc
    simpa [Value.fails] using hc
  · intro hfails segment hsegment
    cases segment with
    | literal => rfl
    | slot i =>
      obtain ⟨v, hat, hv⟩ := hslot ((slot_mem_segments_iff h i).mp hsegment)
      have hf := hfails v (List.mem_of_getElem? hv)
      rw [Segment.rendering, hat]
      simpa [Value.fails] using hf

end Template

end StructuredLog
