import StructuredLog.Proofs.Template.Run
import StructuredLog.Template

/-!
# Rendering compiled patterns

The literal segments of a pattern write its literals with single braces, and each slot writes its
value, so a rendering in which no value fails writes the filled pattern.
-/

namespace StructuredLog

/-! ## Renderings that complete -/

theorem Rendering.toText_eq_some_iff {r : Rendering} {a : String} :
    (toText r).result = some a ↔ completes r = true ∧ text r = a := by
  simp [toText]

theorem Rendering.toText_append {r t : Rendering} {a b : String}
    (hr : (toText r).result = some a) (ht : (toText t).result = some b) :
    (toText (r ++ t)).result = some (a ++ b) := by
  obtain ⟨hcr, rfl⟩ := toText_eq_some_iff.mp hr
  obtain ⟨hct, rfl⟩ := toText_eq_some_iff.mp ht
  exact toText_eq_some_iff.mpr ⟨by simp [completes_append, hcr, hct], text_append hcr t⟩

theorem Value.toText_rendering {v : Value} (h : v.fails = false) :
    (Rendering.toText v.rendering).result = some v.text :=
  Rendering.toText_eq_some_iff.mpr ⟨by simpa [fails] using h, rfl⟩

namespace Template

/-! ## Segments -/

theorem toText_literal (values : Indexed Value) (start : Nat) (text : String) :
    (Rendering.toText ((literal start text).flatMap (Segment.rendering values))).result =
      some text := by
  by_cases h : text.isEmpty = true
  · have he : text = "" := by simpa using h
    rw [he]
    rfl
  · simp [literal, h, Segment.rendering, Rendering.toText]

/-- However a literal is split, its segments write all of it. -/
theorem toText_literalSegments (values : Indexed Value) (offset start : Nat) (before : String)
    (cs : List Char) :
    (Rendering.toText ((Scan.literalSegments offset start before cs).flatMap
      (Segment.rendering values))).result = some (before ++ .ofList cs) := by
  induction cs generalizing offset start before with
  | nil => simpa [Scan.literalSegments] using toText_literal values start before
  | cons c cs ih =>
    rw [Scan.literalSegments]
    split
    · rw [List.flatMap_append, ← Scan.push_append_ofList]
      refine Rendering.toText_append (toText_literal values start _) ?_
      simpa using ih (offset + Text.byteSize (Atom.ofChar c).source)
        (offset + Text.byteSize (Atom.ofChar c).source) ""
    · rw [← Scan.push_append_ofList]
      exact ih _ _ _

/-- Slots that take the values from `index` on write these, each with the literal behind it. -/
theorem toText_slotSegments (values : Indexed Value) (offset index : Nat) (slots : List Slot)
    (hcount : index + slots.length ≤ values.count)
    (hfails : ∀ v ∈ (values.toList.drop index).take slots.length, v.fails = false) :
    (Rendering.toText ((Scan.slotSegments offset index slots).flatMap
      (Segment.rendering values))).result =
        some (.join (List.zipWith (fun slot text => text ++ slot.literal) slots
          ((values.toList.drop index).map Value.text))) := by
  induction slots generalizing offset index with
  | nil => simp [Scan.slotSegments, Rendering.toText]
  | cons slot slots ih =>
    rw [List.length_cons] at hcount hfails
    have hindex : index < values.toList.length := by
      rw [values.length_toList]
      omega
    have hat : values.at? index = some values.toList[index] := by
      rw [← values.getElem?_toList, List.getElem?_eq_getElem hindex]
    rw [List.drop_eq_getElem_cons hindex, List.take_succ_cons] at hfails
    have hv := Value.toText_rendering (hfails _ (List.mem_cons_self ..))
    have hliteral := toText_literalSegments values
      (offset + Text.byteSize slot.span.toList)
      (offset + Text.byteSize slot.span.toList) ""
      slot.literal.toList
    have hrest := ih (offset + Text.byteSize slot.source.toList) (index + 1) (by omega)
      fun v h => hfails v (List.mem_cons_of_mem _ h)
    rw [List.drop_eq_getElem_cons hindex, List.map_cons, List.zipWith_cons_cons, String.join_cons]
    have h := Rendering.toText_append (Rendering.toText_append hv hliteral) hrest
    simpa [Scan.slotSegments, Segment.rendering, hat] using h

end Template

end StructuredLog
