import StructuredLog.Proofs.Template.Run
import StructuredLog.Proofs.Text.Offsets
import StructuredLog.Template

/-!
# Where a template is malformed

A text that does not compile is malformed at the first position from which nothing can be added to
make a template of it: either at a brace, where every continuation that leaves the brace single is
malformed as well, or at its end inside a name, where closing the name makes a template.
-/

namespace StructuredLog.Template

open Text Atom

/-! ## Continued texts -/

namespace Scan

/-- A failure at a single brace stays where it is whatever follows, if the brace stays single. -/
theorem scan_single_of_error {xs ys : List Atom} {b : Brace} {s : Scan} {offset : Nat}
    (ha : Separated (xs ++ .single b :: ys) []) (hrun : Scan.run {} xs = .ok s)
    (hstep : s.step (.single b) = .error offset) {rest : List Char}
    (hrest : rest.head? ≠ some b.char) :
    scan (xs.flatMap source ++ b.char :: rest) = .error offset := by
  have hxs : Separated xs (b.char :: rest) :=
    ((separated_append _ _ _).mp ha).1.of_head (by simp [source])
  have hbrace : read (b.char :: rest) = .single b :: read rest :=
    read_source_append (a := .single b) hrest
  apply scan_of_run_eq_error
  rw [read_flatMap_source_append hxs, hbrace, run_append_of_ok hrun, run_cons_of_error hstep]

theorem scan_source_of_run {xs : List Atom} {s : Scan} (ha : Separated xs [])
    (hrun : Scan.run {} xs = .ok s) (hmode : s.InLiteral) :
    ∃ s', scan (xs.flatMap source) = .ok s' := by
  obtain ⟨s', hfinish, -⟩ := finish_of_inLiteral hmode
  have hread : run {} (read (xs.flatMap source)) = .ok s := by
    rw [read_flatMap_source ha, hrun]
  exact ⟨s', (scan_of_run_eq_ok hread).trans hfinish⟩

/-- An open name is closed by a character and a brace. -/
theorem scan_closed_of_run {xs : List Atom} {s : Scan} {text : String} (ha : Separated xs [])
    (hrun : Scan.run {} xs = .ok s) (hmode : s.mode = .name text) :
    ∃ s', scan (xs.flatMap source ++ ['x', '}']) = .ok s' := by
  have hread : read (xs.flatMap source ++ ['x', '}']) = xs ++ [.plain 'x', .single .closing] :=
    read_flatMap_source_append (ha.of_head (by intro b; cases b <;> simp [Brace.char]))
  have hclose : ∃ s', s.run [.plain 'x', .single .closing] = .ok s' ∧ s'.InLiteral := by
    simp [run, step, hmode, InLiteral, bind, Except.bind, pure, Except.pure]
  obtain ⟨s₁, hrun₁, hmode₁⟩ := hclose
  obtain ⟨s', hfinish, -⟩ := finish_of_inLiteral hmode₁
  have hclosed : run {} (read (xs.flatMap source ++ ['x', '}'])) = .ok s₁ := by
    rw [hread, run_append_of_ok hrun, hrun₁]
  exact ⟨s', (scan_of_run_eq_ok hclosed).trans hfinish⟩

end Scan

/-! ## Failures of the scanner -/

/-- Behind `before`, which can be completed, the brace is where every scan fails that finds it
single. -/
structure StuckAt (before : List Char) (b : Brace) : Prop where
  fails : ∀ rest, rest.head? ≠ some b.char →
    scan (before ++ b.char :: rest) = .error (byteSize before)
  completable : (∃ s, scan before = .ok s) ∨ ∃ s, scan (before ++ ['x', '}']) = .ok s

theorem stuckAt_of_read_eq_error {cs : List Char} {offset : Nat}
    (h : Scan.run {} (read cs) = .error offset) :
    ∃ before b after, cs = before ++ Brace.char b :: after ∧ offset = byteSize before ∧
      StuckAt before b := by
  obtain ⟨xs, b, ys, s, hread, hxs, hstep, rfl⟩ := Scan.split_of_run_eq_error h
  have ha := separated_read cs
  have hcs := flatMap_source_read cs
  rw [hread] at ha hcs
  have hbefore : Separated xs [] := ((separated_append _ _ _).mp ha).1.of_head (by simp)
  have hoffset : s.offset = byteSize (xs.flatMap source) := by simpa using Scan.offset_run hxs
  refine ⟨xs.flatMap source, b, ys.flatMap source, ?_, hoffset, ?_, ?_⟩
  · simpa [source, eq_comm] using hcs
  · intro rest hrest
    rw [← hoffset]
    exact Scan.scan_single_of_error ha hxs hstep hrest
  · cases hmode : s.mode with
    | literal start text =>
      exact .inl (Scan.scan_source_of_run hbefore hxs ⟨start, text, hmode⟩)
    | name text => exact .inr (Scan.scan_closed_of_run hbefore hxs hmode)

/-- A run to the end is no template only if a name is open, and then closing it makes one. -/
theorem closed_of_finish_eq_error {cs : List Char} {s : Scan} {offset : Nat}
    (hrun : Scan.run {} (read cs) = .ok s) (h : s.finish = .error offset) :
    offset = byteSize cs ∧ ∃ s', scan (cs ++ ['x', '}']) = .ok s' := by
  have hcs := flatMap_source_read cs
  cases hmode : s.mode with
  | literal start text => simp [Scan.finish, hmode] at h
  | name text =>
    have hoffset : s.offset = offset := by simpa [Scan.finish, hmode] using h
    refine ⟨?_, ?_⟩
    · rw [← hoffset, Scan.offset_run hrun, hcs, Nat.zero_add]
    · simpa [hcs] using Scan.scan_closed_of_run (separated_read cs) hrun hmode

theorem compile_eq_error_iff {text : String} {e : TemplateError} :
    compile text = .error e ↔
      ∃ offset, scan text.toList = .error offset ∧ e = .malformedAt text offset := by
  rw [compile]
  cases scan text.toList with
  | ok s => simp
  | error offset => simp [eq_comm]

theorem exists_compile_eq_ok_iff {text : String} :
    (∃ t, compile text = .ok t) ↔ ∃ s, scan text.toList = .ok s := by
  rw [compile]
  cases scan text.toList with
  | ok s => simp
  | error offset => simp

/-! ## The reported position -/

theorem malformedAt_append (before after : String) :
    TemplateError.malformedAt (before ++ after) before.utf8ByteSize =
      .malformed (before ++ after) before.length := by
  rw [TemplateError.malformedAt, String.toList_append, ← byteSize_toList, indexOfOffset_append,
    String.length_toList]

theorem byteIndex?_malformed_append (before after : String) :
    (TemplateError.malformed (before ++ after) before.length).byteIndex? =
      some before.utf8ByteSize := by
  rw [TemplateError.byteIndex?, String.toList_append, ← String.length_toList, offsetOfIndex_append,
    byteSize_toList]

/-- The error holds the text and the position between `before` and `after`. Where a brace stands
there, no text with this brace single compiles, but `before` can be completed; at the end, the text
itself can. -/
structure ReportedFirst (text : String) (e : TemplateError) (before after : String) : Prop where
  split : text = before ++ after
  template : e.template? = some text
  index : e.index? = some before.length
  byteIndex : e.byteIndex? = some before.utf8ByteSize
  brace : before.utf8ByteSize < text.utf8ByteSize → ∃ b : Brace,
    after.toList.head? = some b.char ∧
    (∀ rest : String, rest.toList.head? ≠ some b.char →
      ∃ e', compile (before ++ String.singleton b.char ++ rest) = .error e' ∧
        e'.index? = some before.length) ∧
    ((∃ t, compile before = .ok t) ∨ ∃ t, compile (before ++ "x\x7d") = .ok t)
  ending : before.utf8ByteSize = text.utf8ByteSize → ∃ t, compile (text ++ "x\x7d") = .ok t

theorem StuckAt.reportedFirst {before : String} {b : Brace} (h : StuckAt before.toList b)
    (after : String) :
    ReportedFirst (before ++ (.singleton b.char ++ after))
      (.malformedAt (before ++ (.singleton b.char ++ after)) before.utf8ByteSize)
      before (.singleton b.char ++ after) := by
  rw [malformedAt_append]
  refine ⟨rfl, rfl, rfl, byteIndex?_malformed_append _ _, ?_, ?_⟩
  · intro _
    refine ⟨b, by simp, ?_, ?_⟩
    · intro rest hne
      have hscan : scan (before ++ String.singleton b.char ++ rest).toList =
          .error before.utf8ByteSize := by
        simpa [byteSize_toList] using h.fails rest.toList hne
      refine ⟨_, compile_eq_error_iff.mpr ⟨_, hscan, rfl⟩, ?_⟩
      rw [String.append_assoc, malformedAt_append]
      rfl
    · rw [exists_compile_eq_ok_iff, exists_compile_eq_ok_iff]
      simpa using h.completable
  · intro hsize
    have hpos := b.char.utf8Size_pos
    rw [String.utf8ByteSize_append, String.utf8ByteSize_append, String.utf8ByteSize_singleton]
      at hsize
    omega

theorem reportedFirst_of_closed {text : String}
    (h : ∃ s, scan (text.toList ++ ['x', '}']) = .ok s) :
    ReportedFirst text (.malformedAt text text.utf8ByteSize) text "" := by
  have hat : TemplateError.malformedAt text text.utf8ByteSize = .malformed text text.length := by
    simpa using malformedAt_append text ""
  rw [hat]
  refine ⟨by simp, rfl, rfl, ?_, ?_, ?_⟩
  · simpa using byteIndex?_malformed_append text ""
  · intro hlt
    omega
  · intro _
    rw [exists_compile_eq_ok_iff]
    simpa using h

/-- A text that does not compile is reported at the first position from which it can no longer be
completed. -/
theorem compile_reports_first (text : String) (e : TemplateError)
    (h : compile text = .error e) : ∃ before after, ReportedFirst text e before after := by
  obtain ⟨offset, hscan, rfl⟩ := compile_eq_error_iff.mp h
  cases hrun : Scan.run {} (read text.toList) with
  | error offset' =>
    obtain rfl : offset' = offset := by simpa [Scan.scan_of_run_eq_error hrun] using hscan
    obtain ⟨before, b, after, hcs, rfl, hstuck⟩ := stuckAt_of_read_eq_error hrun
    obtain ⟨before, rfl⟩ : ∃ s : String, before = s.toList := ⟨.ofList before, by simp⟩
    obtain rfl : text = before ++ (.singleton b.char ++ .ofList after) := by
      apply String.toList_inj.mp
      simp [hcs]
    rw [byteSize_toList]
    exact ⟨before, _, hstuck.reportedFirst _⟩
  | ok s =>
    rw [Scan.scan_of_run_eq_ok hrun] at hscan
    obtain ⟨rfl, hclosed⟩ := closed_of_finish_eq_error hrun hscan
    rw [byteSize_toList]
    exact ⟨text, "", reportedFirst_of_closed hclosed⟩

theorem reports_second_opening_brace :
    compile "日\x7b本\x7b" = .error (.malformed "日\x7b本\x7b" 3) ∧
      ∃ before after, ReportedFirst "日\x7b本\x7b" (.malformed "日\x7b本\x7b" 3) before after := by
  have h : compile "日\x7b本\x7b" = .error (.malformed "日\x7b本\x7b" 3) := rfl
  exact ⟨h, compile_reports_first _ _ h⟩

end StructuredLog.Template
