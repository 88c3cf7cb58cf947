import StructuredLog.Proofs.Rendering.Writers
import StructuredLog.Proofs.Template.Bytes
import StructuredLog.Proofs.Template.Grammar
import StructuredLog.Proofs.Template.Malformed

/-!
# Slicing a template

Whatever the text, compiling its bytes asks only for slices that are there, and so does writing a
template that was compiled. Where a text is malformed, the scanner of bytes stops before a brace or
at the end, and the error that counts characters leads back to this offset.
-/

namespace StructuredLog

open Text

/-! ## Writing -/

section Writing

variable {σ : Type} (write : Taker String Unit σ) (values : Indexed Value)

/-- Writes a literal as the slice of the text where it stands, and a slot as its value. -/
def Template.ByteSegment.writeTo (text : String) :
    ByteSegment → ExceptT (Abort Unit) (StateM σ) Unit
  | .literal start stop => do
    let piece ← slice (ε := Unit) text start stop
    (write piece).adapt .error
  | .slot index =>
    match values.at? index with
    | some v => (Rendering.writeTo write v.rendering).adapt .error
    | none => throw (.error ())

/-- Writes the segments in order, until the writer refuses a piece, a value fails, or a literal is
no slice of the text. -/
def ByteTemplate.writeSegments (t : ByteTemplate) : ExceptT (Abort Unit) (StateM σ) Unit :=
  t.segments.forM (Template.ByteSegment.writeTo write values t.original)

theorem adapt_bind {ε ε' α β : Type} {m : Type → Type} [Monad m] [LawfulMonad m] (f : ε → ε')
    (x : ExceptT ε m α) (g : α → ExceptT ε m β) :
    (x >>= g).adapt f = x.adapt f >>= fun a => (g a).adapt f := by
  apply ExceptT.ext
  rw [ExceptT.run_adapt, ExceptT.run_bind, ExceptT.run_bind, ExceptT.run_adapt, map_bind,
    bind_map_left]
  apply bind_congr
  rintro (e | a)
  · exact map_pure ..
  · exact (ExceptT.run_adapt ..).symm

namespace Template

/-- A literal that stands in the text is written as it is. -/
theorem writeTo_inBytes {text : String} {segment : Segment}
    (h : ∀ start literal, segment = .literal start literal →
      slice? text start (start + literal.utf8ByteSize) = some literal) :
    segment.inBytes.writeTo write values text =
      (Rendering.writeTo write (segment.rendering values)).adapt .error := by
  cases segment with
  | literal start literal =>
    have hslice : slice (ε := Unit) text start (start + literal.utf8ByteSize) = .ok literal := by
      rw [slice, h start literal rfl]
    rw [Segment.inBytes, ByteSegment.writeTo, hslice, Segment.rendering, Rendering.writeTo,
      Rendering.writeTo, adapt_bind]
    exact (bind_pure _).symm
  | slot index =>
    rw [Segment.inBytes, ByteSegment.writeTo, Segment.rendering]
    cases values.at? index with
    | some v => rfl
    | none => rfl

theorem forM_writeTo_inBytes {text : String} {segments : List Segment}
    (h : ∀ start literal, .literal start literal ∈ segments →
      slice? text start (start + literal.utf8ByteSize) = some literal) :
    (segments.map Segment.inBytes).forM (ByteSegment.writeTo write values text) =
      (Rendering.writeTo write (segments.flatMap (Segment.rendering values))).adapt .error := by
  induction segments with
  | nil => rfl
  | cons segment segments ih =>
    have hfirst : segment.inBytes.writeTo write values text =
        (Rendering.writeTo write (segment.rendering values)).adapt .error :=
      writeTo_inBytes write values fun start literal heq => h start literal (by simp [heq])
    have hrest := ih fun start literal hmem => h start literal (List.mem_cons_of_mem _ hmem)
    rw [List.flatMap_cons, Rendering.writeTo_append, adapt_bind, ← hfirst, ← hrest]
    rfl

theorem writeSegments_inBytes {text : String} {t : Template} (h : compile text = .ok t) :
    t.inBytes.writeSegments write values =
      (Rendering.writeTo write (t.segmentsRendering values)).adapt .error := by
  rw [ByteTemplate.writeSegments, inBytes, original_of_compile h]
  exact forM_writeTo_inBytes write values fun start literal hmem => slice?_of_compile h hmem

end Template

end Writing

/-! ## Where compiling stops -/

namespace Template

open Atom

/-- The scanner of bytes fails with the error when this is left of the text: nothing at all, or a
single brace with what stands behind it. -/
inductive ByteScan.FailsBefore (text : String) (r : ByteScan) (e : TemplateError) : String → Prop
  | ending (h : r.finish text = .error (.error e)) : FailsBefore text r e ""
  | brace (b : Brace) (behind : String) (hbehind : behind.toList.head? ≠ some b.char)
    (h : r.single text b = .error (.error e)) :
    FailsBefore text r e (.singleton b.char ++ behind)

/-- The bytes of the text are read up to the end of `before`, and what is left then is refused. The
offset is a place to slice the text, and it is found again from the index of the error. -/
structure StopsAt (text : String) (e : TemplateError) (before after : String) : Prop where
  compile_eq : ByteTemplate.compile text = .error (.error e)
  error_eq : e = .malformed text before.length
  byteIndex?_eq : e.byteIndex? = some before.utf8ByteSize
  isBoundary : IsBoundary text before.utf8ByteSize
  slice?_eq : slice? text before.utf8ByteSize text.utf8ByteSize = some after
  exists_run : ∃ r : ByteScan, ByteScan.run text {} before.toUTF8.toList = .ok r ∧
    r.offset = before.utf8ByteSize ∧ r.FailsBefore text e after

/-- Behind the first atoms of a text, the scanner of bytes stands where the other one does. -/
theorem exists_run_bytes {text : String} {atoms : List Atom} {s : Scan}
    (hatoms : Separated atoms []) (htext : atoms.flatMap source <+: text.toList)
    (h : Scan.run {} atoms = .ok s) :
    ∃ r, ByteScan.run text {} (String.ofList (atoms.flatMap source)).toUTF8.toList = .ok r ∧
      SamePlace (atoms.flatMap source) s r := by
  have hsame : SameResult text (atoms.flatMap source) (Scan.run {} atoms)
      (atoms.foldlM (ByteScan.step text) {}) := SamePlace.start.run htext
  rw [h, ← ByteScan.run_flatMap_bytes hatoms, flatMap_bytes] at hsame
  rw [toList_toUTF8, String.toList_ofList]
  exact hsame.exists_eq_ok

theorem SamePlace.stopsAt {text before after : String} {s : Scan} {r : ByteScan}
    (h : SamePlace before.toList s r) (htext : text = before ++ after)
    (hscan : scan text.toList = .error s.offset)
    (hrun : ByteScan.run text {} before.toUTF8.toList = .ok r)
    (hfails : r.FailsBefore text (.malformedAt text s.offset) after) :
    StopsAt text (.malformedAt text s.offset) before after := by
  subst htext
  have hcompile : ByteTemplate.compile (before ++ after) =
      .error (.error (.malformedAt (before ++ after) s.offset)) := by
    rw [ByteTemplate.compile_eq, compile_eq_error_iff.mpr ⟨_, hscan, rfl⟩]
  have hoffset : s.offset = before.utf8ByteSize := by rw [h.offset_left, byteSize_toList]
  rw [hoffset, malformedAt_append] at hcompile hfails ⊢
  refine ⟨hcompile, rfl, byteIndex?_malformed_append before after, ?_, ?_, r, hrun, ?_, hfails⟩
  · exact isBoundary_iff.mpr ⟨before, after, rfl, rfl⟩
  · exact slice?_eq_some_iff.mpr ⟨before, "", by simp, rfl, rfl⟩
  · rw [h.offset_right, byteSize_toList]

/-- A run that fails does so at a brace that it reads alone. -/
theorem exists_stopsAt_of_run {text : String} {offset : Nat}
    (h : Scan.run {} (read text.toList) = .error offset) :
    ∃ before after, StopsAt text (.malformedAt text offset) before after := by
  have hscan := Scan.scan_of_run_eq_error h
  obtain ⟨xs, b, ys, s, hread, hxs, hstep, rfl⟩ := Scan.split_of_run_eq_error h
  have hatoms := separated_read text.toList
  have htext := flatMap_source_read text.toList
  rw [hread] at hatoms htext
  obtain ⟨hfront, hsingle, -⟩ := (separated_append _ _ _).mp hatoms
  have hprefix : xs.flatMap source <+: text.toList := by
    rw [← htext, List.flatMap_append]
    exact List.prefix_append ..
  obtain ⟨r, hr, hplace⟩ := exists_run_bytes (hfront.of_head (by simp)) hprefix hxs
  have hfails : r.single text b = .error (.error (.malformedAt text s.offset)) := by
    have hsame := hplace.step (.single b) hprefix
    rw [hstep] at hsame
    exact hsame.eq_error
  have hbehind : (String.ofList (ys.flatMap source)).toList.head? ≠ some b.char := by
    simpa [Precedes] using hsingle
  have hsplit : text = .ofList (xs.flatMap source) ++
      (.singleton b.char ++ .ofList (ys.flatMap source)) := by
    apply String.toList_inj.mp
    simp [← htext, source]
  exact ⟨_, _, SamePlace.stopsAt (by rwa [String.toList_ofList]) hsplit hscan hr
    (.brace b _ hbehind hfails)⟩

theorem exists_stopsAt_of_finish {text : String} {s : Scan} {offset : Nat}
    (h : Scan.run {} (read text.toList) = .ok s) (hfinish : s.finish = .error offset) :
    ∃ before after, StopsAt text (.malformedAt text offset) before after := by
  have hscan := (Scan.scan_of_run_eq_ok h).trans hfinish
  have hprefix : (read text.toList).flatMap source <+: text.toList :=
    ⟨[], by rw [List.append_nil, flatMap_source_read]⟩
  obtain ⟨r, hr, hplace⟩ := exists_run_bytes (separated_read text.toList) hprefix h
  rw [flatMap_source_read] at hr hplace
  rw [String.ofList_toList] at hr
  have hfails : r.finish text = .error (.error (.malformedAt text offset)) := by
    have hsame := hplace.finish
    rw [hfinish] at hsame
    exact hsame.eq_error
  obtain rfl : offset = s.offset := by
    rw [hplace.offset_left]
    exact (closed_of_finish_eq_error h hfinish).1
  exact ⟨text, "", hplace.stopsAt (by simp) hscan hr (.ending hfails)⟩

theorem exists_stopsAt {text : String} {e : TemplateError} (h : compile text = .error e) :
    ∃ before after, StopsAt text e before after := by
  obtain ⟨offset, hscan, rfl⟩ := compile_eq_error_iff.mp h
  cases hrun : Scan.run {} (read text.toList) with
  | error offset' =>
    obtain rfl : offset' = offset := by simpa [Scan.scan_of_run_eq_error hrun] using hscan
    exact exists_stopsAt_of_run hrun
  | ok s =>
    rw [Scan.scan_of_run_eq_ok hrun] at hscan
    exact exists_stopsAt_of_finish hrun hscan

/-! ## All texts -/

/-- The bytes compile to the template, each of its literals is sliced from the text as it is, and
writing ends as writing the rendering does. -/
structure SlicesLiterals (text : String) (t : Template) : Prop where
  compile_eq : ByteTemplate.compile text = .ok t.inBytes
  slice?_eq : ∀ start stop, .literal start stop ∈ t.inBytes.segments →
    ∃ literal, .literal start literal ∈ t.segments ∧ slice? text start stop = some literal
  writeSegments_eq : ∀ {σ : Type} (write : Taker String Unit σ) (values : Indexed Value),
    t.inBytes.writeSegments write values =
      (Rendering.writeTo write (t.segmentsRendering values)).adapt .error

theorem slicesLiterals {text : String} {t : Template} (h : compile text = .ok t) :
    SlicesLiterals text t := by
  refine ⟨?_, ?_, ?_⟩
  · rw [ByteTemplate.compile_eq, h]
  · intro start stop hmem
    obtain ⟨segment, hsegment, heq⟩ := List.mem_map.mp hmem
    cases segment with
    | slot index => cases heq
    | literal start literal =>
      cases heq
      exact ⟨literal, hsegment, slice?_of_compile h hsegment⟩
  · exact fun write values => writeSegments_inBytes write values h

/-- A text is sliced between two offsets only if they are boundaries of it, in order. Compiling the
bytes of any text and writing the template asks for no other slices: both come to the same as for
the text itself, and never break off for the lack of a slice. An error is found at a boundary, which
its index leads back to, and behind which stands nothing or the brace that is refused. -/
theorem bytes_slice_text (text : String) :
    (∀ start stop, (∃ piece, slice? text start stop = some piece) ↔
      start ≤ stop ∧ stop ≤ text.utf8ByteSize ∧ IsBoundary text start ∧ IsBoundary text stop) ∧
    match compile text with
    | .ok t => SlicesLiterals text t
    | .error e => ∃ before after, StopsAt text e before after := by
  refine ⟨fun start stop => exists_slice?_eq_some_iff, ?_⟩
  cases h : compile text with
  | ok t => exact slicesLiterals h
  | error e => exact exists_stopsAt h

end Template

end StructuredLog
