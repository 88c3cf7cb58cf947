import StructuredLog.Proofs.Template.Grammar
import StructuredLog.Proofs.Template.Malformed

/-!
# Templates one behind another

Behind a template that compiles, a text is scanned as if it stood alone: it is malformed at the same
place, counted from where it begins, or it adds its slots to those of the template. The exception is
a closing brace behind the last slot, which is read together with the brace that ends the slot.
-/

namespace StructuredLog.Template

open Text Atom

/-! ## Scans that began elsewhere -/

/-- Are both inside literal text, or inside a name of which the same has been read? -/
def Mode.Alike : Mode → Mode → Prop
  | .literal _ _, .literal _ _ => True
  | .name text, .name text' => text = text'
  | _, _ => False

namespace Scan

/-- The scanner `t` has read `distance` bytes more than `s` and goes on like it. -/
structure Ahead (distance : Nat) (s t : Scan) : Prop where
  offset_eq : t.offset = distance + s.offset
  alike : s.mode.Alike t.mode

/-- Both results are failures at this distance from each other, or both are scanners that are. -/
inductive Agree (distance : Nat) : Except Nat Scan → Except Nat Scan → Prop
  | ok {s t : Scan} (h : Ahead distance s t) : Agree distance (.ok s) (.ok t)
  | error (offset : Nat) : Agree distance (.error offset) (.error (distance + offset))

variable {distance : Nat} {s t : Scan}

theorem Agree.bind {x y : Except Nat Scan} {f : Scan → Except Nat Scan} (h : Agree distance x y)
    (hf : ∀ s t, Ahead distance s t → Agree distance (f s) (f t)) :
    Agree distance (x >>= f) (y >>= f) := by
  cases h with
  | ok h => exact hf _ _ h
  | error offset => exact .error offset

theorem Ahead.step (h : Ahead distance s t) (a : Atom) :
    Agree distance (s.step a) (t.step a) := by
  obtain ⟨offset, segments, names, mode⟩ := s
  obtain ⟨offset', segments', names', mode'⟩ := t
  obtain ⟨rfl, halike⟩ := h
  cases mode with
  | literal start text =>
    cases mode' with
    | name text' => exact halike.elim
    | literal start' text' =>
      cases a with
      | plain c => exact .ok ⟨Nat.add_assoc .., trivial⟩
      | double b => exact .ok ⟨Nat.add_assoc .., trivial⟩
      | single b =>
        cases b with
        | opening => exact .ok ⟨Nat.add_assoc .., rfl⟩
        | closing => exact .error offset
  | name text =>
    cases mode' with
    | literal start' text' => exact halike.elim
    | name text' =>
      obtain rfl : text = text' := halike
      cases a with
      | plain c => exact .ok ⟨Nat.add_assoc .., rfl⟩
      | double b => exact .ok ⟨Nat.add_assoc .., rfl⟩
      | single b =>
        cases b with
        | opening => exact .error offset
        | closing =>
          by_cases hempty : text.isEmpty = true
          · simp only [Scan.step, if_pos hempty]
            exact .error offset
          · simp only [Scan.step, if_neg hempty]
            exact .ok ⟨Nat.add_assoc .., trivial⟩

theorem Ahead.run (h : Ahead distance s t) (atoms : List Atom) :
    Agree distance (s.run atoms) (t.run atoms) := by
  induction atoms generalizing s t with
  | nil => exact .ok h
  | cons a atoms ih => exact (h.step a).bind fun _ _ hnext => ih hnext

theorem Ahead.finish (h : Ahead distance s t) : Agree distance s.finish t.finish := by
  obtain ⟨offset, segments, names, mode⟩ := s
  obtain ⟨offset', segments', names', mode'⟩ := t
  obtain ⟨rfl, halike⟩ := h
  cases mode with
  | literal start text =>
    cases mode' with
    | literal start' text' => exact .ok ⟨rfl, trivial⟩
    | name text' => exact halike.elim
  | name text =>
    cases mode' with
    | literal start' text' => exact halike.elim
    | name text' => exact .error offset

/-- The end of a template is outside of any name. -/
theorem exists_run_of_scan {text : List Char} {s : Scan} (h : scan text = .ok s) :
    ∃ s', Scan.run {} (read text) = .ok s' ∧ s'.InLiteral := by
  cases hrun : Scan.run {} (read text) with
  | error offset =>
    rw [scan_of_run_eq_error hrun] at h
    cases h
  | ok s' =>
    rw [scan_of_run_eq_ok hrun] at h
    cases hmode : s'.mode with
    | literal start text => exact ⟨s', rfl, start, text, hmode⟩
    | name text => simp [Scan.finish, hmode] at h

/-- A text whose atoms stand apart from those of the template is scanned as if it stood alone. -/
theorem agree_scan_append {before behind : List Char} {s : Scan} (hs : scan before = .ok s)
    (hread : read (before ++ behind) = read before ++ read behind) :
    Agree (byteSize before) (scan behind) (scan (before ++ behind)) := by
  obtain ⟨s', hrun, start, text, hmode⟩ := exists_run_of_scan hs
  have hahead : Ahead (byteSize before) {} s' := by
    refine ⟨?_, by rw [hmode]; trivial⟩
    simpa [flatMap_source_read, Nat.add_comm] using offset_run hrun
  rw [scan, scan, hread, run_append_of_ok hrun]
  exact (hahead.run (read behind)).bind fun _ _ h => h.finish

end Scan

/-! ## Patterns one behind another -/

/-- Does the template end with the closing brace of a slot? -/
def EndsWithSlot (t : Template) : Prop :=
  ∃ i, t.segments.getLast? = some (.slot i)

theorem getLast?_slotSegments {slots : List Slot} {slot : Slot}
    (hlast : slots.getLast? = some slot) (hempty : slot.literal = "") (offset index : Nat) :
    ∃ i, (Scan.slotSegments offset index slots).getLast? = some (.slot i) := by
  induction slots generalizing offset index with
  | nil => cases hlast
  | cons first slots ih =>
    cases slots with
    | nil =>
      obtain rfl : first = slot := by simpa using hlast
      exact ⟨index, by simp [Scan.slotSegments, hempty, Scan.literalSegments, literal]⟩
    | cons next slots =>
      rw [List.getLast?_cons_cons] at hlast
      obtain ⟨i, hi⟩ := ih hlast (offset + byteSize first.source.toList) (index + 1)
      refine ⟨i, ?_⟩
      rw [Scan.slotSegments, List.getLast?_cons, List.getLast?_append, hi]
      rfl

theorem Pattern.endsWithSlot_compiled {p : Pattern} {slot : Slot}
    (hlast : p.slots.getLast? = some slot) (hempty : slot.literal = "") :
    p.compiled.EndsWithSlot := by
  obtain ⟨i, hi⟩ := getLast?_slotSegments hlast hempty (byteSize (escape p.first).toList) 0
  refine ⟨i, ?_⟩
  show p.segments.getLast? = _
  rw [segments, List.getLast?_append, hi]
  rfl

theorem escape_append (s t : String) : escape (s ++ t) = escape s ++ escape t := by
  simp [escape]

theorem Pattern.head?_source_of_first {p : Pattern} {c : Char}
    (h : p.first.toList.head? = some c) : p.source.toList.head? = some c := by
  rw [source, String.toList_append, ← flatMap_source_quoting, head?_source_quoting, h,
    Option.some_or]

/-- The slot with more literal text behind it. -/
def Slot.extend (slot : Slot) (text : String)
    (h : slot.literal = "" → text.toList.head? ≠ some '}') : Slot where
  name := slot.name
  literal := slot.literal ++ text
  name_ne_empty := slot.name_ne_empty
  head?_name := slot.head?_name
  head?_literal := by
    rw [String.toList_append, List.head?_append]
    cases hl : slot.literal.toList.head? with
    | none => simpa using h (by simpa using hl)
    | some c => simpa [hl] using slot.head?_literal

/-- The pattern `r` says what `p` says and then what `q` says. -/
structure Pattern.Joins (p q r : Pattern) : Prop where
  source_eq : r.source = p.source ++ q.source
  names_eq : r.names = p.names ++ q.names
  fill_append : ∀ texts texts' : List String, texts.length = p.slots.length →
    r.fill (texts ++ texts') = p.fill texts ++ q.fill texts'

/-- The literals at the seam become one literal. -/
theorem Pattern.exists_joins (p q : Pattern)
    (h : ∀ slot, p.slots.getLast? = some slot → slot.literal = "" →
      q.first.toList.head? ≠ some '}') : ∃ r, Joins p q r := by
  obtain ⟨first, slots⟩ := p
  obtain rfl | ⟨slots, last, rfl⟩ := List.eq_nil_or_concat slots
  · refine ⟨⟨first ++ q.first, q.slots⟩, ?_, rfl, ?_⟩
    · simp [source, escape_append, String.append_assoc]
    · intro texts texts' hlength
      obtain rfl : texts = [] := by simpa using hlength
      simp [fill, String.append_assoc]
  · let seam : Slot := last.extend q.first (h last (by simp))
    refine ⟨⟨first, slots ++ seam :: q.slots⟩, ?_, ?_, ?_⟩
    · simp [source, Slot.source, Slot.span, seam, Slot.extend, escape_append, String.append_assoc]
    · simp [names, seam, Slot.extend]
    · intro texts texts' hlength
      obtain rfl | ⟨texts, text, rfl⟩ := List.eq_nil_or_concat texts
      · simp at hlength
      · have hslots : slots.length = texts.length := by simpa using hlength.symm
        simp [fill, seam, Slot.extend, List.zipWith_append hslots, String.append_assoc]

/-! ## Compiling -/

theorem malformedAt_append_add (before behind : String) (offset : Nat) :
    TemplateError.malformedAt (before ++ behind) (byteSize before.toList + offset) =
      .malformed (before ++ behind) (before.length + indexOfOffset behind.toList offset) := by
  rw [TemplateError.malformedAt, String.toList_append, indexOfOffset_append_add,
    String.length_toList]

/-- The seam in a pattern: no closing brace stands behind a slot without literal. -/
theorem Pattern.head?_ne_of_seam {p : Pattern} {behind : List Char}
    (h : p.compiled.EndsWithSlot → behind.head? ≠ some '}') (slot : Slot)
    (hlast : p.slots.getLast? = some slot) (hempty : slot.literal = "") :
    behind.head? ≠ some '}' :=
  h (endsWithSlot_compiled hlast hempty)

theorem Pattern.compile_append_eq_error {p : Pattern} {behind : String} {offset : Nat}
    (h : p.compiled.EndsWithSlot → behind.toList.head? ≠ some '}')
    (herror : scan behind.toList = .error offset) :
    compile (p.source ++ behind) = .error (.malformed (p.source ++ behind)
      (p.source.length + indexOfOffset behind.toList offset)) := by
  obtain ⟨s, hscan, -⟩ := p.scan_source
  have hread : read (p.source.toList ++ behind.toList) =
      read p.source.toList ++ read behind.toList := by
    rw [p.read_source_append (p.head?_ne_of_seam h), p.read_source]
  have hagree := Scan.agree_scan_append hscan hread
  rw [herror, ← String.toList_append] at hagree
  cases hwhole : scan (p.source ++ behind).toList with
  | ok s' =>
    rw [hwhole] at hagree
    cases hagree
  | error offset' =>
    rw [hwhole] at hagree
    cases hagree
    refine compile_eq_error_iff.mpr ⟨_, hwhole, ?_⟩
    rw [malformedAt_append_add]

/-- Values that do not fail are divided between the two patterns. -/
theorem Pattern.Joins.render_eq {p q r : Pattern} (h : Joins p q r) {values : Indexed Value}
    (hcount : r.compiled.arity ≤ values.count)
    (hfails : ∀ v ∈ values.toList.take r.compiled.arity, v.fails = false) :
    ∃ text text',
      p.compiled.render (.ofList (values.toList.take p.compiled.arity)) = .ok text ∧
      q.compiled.render (.ofList (values.toList.drop p.compiled.arity)) = .ok text' ∧
      r.compiled.render values = .ok (text ++ text') := by
  have harity : r.slots.length = p.slots.length + q.slots.length := by
    simpa [names] using congrArg List.length h.names_eq
  simp only [arity_compiled] at hcount hfails ⊢
  have hwhole := r.render_compiled values hcount hfails
  rw [harity, ← values.length_toList] at hcount
  rw [harity, List.take_add] at hfails
  have hfirst : (values.toList.take p.slots.length).length = p.slots.length := by
    rw [List.length_take]
    omega
  refine ⟨_, _, p.render_compiled _ (Nat.le_of_eq hfirst.symm) ?_, q.render_compiled _ ?_ ?_, ?_⟩
  · rw [Indexed.toList_ofList, List.take_take, Nat.min_self]
    exact fun v hv => hfails v (List.mem_append_left _ hv)
  · show _ ≤ (values.toList.drop p.slots.length).length
    rw [List.length_drop]
    omega
  · rw [Indexed.toList_ofList]
    exact fun v hv => hfails v (List.mem_append_right _ hv)
  · rw [hwhole, Indexed.toList_ofList, Indexed.toList_ofList, ← h.fill_append, ← List.map_append,
      List.take_append_drop]
    rw [List.length_map, hfirst]

/-- Behind a template that compiles, any text is malformed where it is malformed by itself, and
otherwise makes a template with the slots of both, which takes the values of the first template and
then those of the text. Only a closing brace behind a slot is not read by itself. -/
theorem compile_append {before behind : String} {t : Template} (h : compile before = .ok t)
    (hseam : t.EndsWithSlot → behind.toList.head? ≠ some '}') :
    ((∃ e, compile (before ++ behind) = .error e) ↔ ∃ e, compile behind = .error e) ∧
    (∀ e, compile behind = .error e → ∃ index, e = .malformed behind index ∧
      compile (before ++ behind) =
        .error (.malformed (before ++ behind) (before.length + index))) ∧
    ∀ u, compile behind = .ok u → ∃ whole, compile (before ++ behind) = .ok whole ∧
      whole.names = t.names ++ u.names ∧
      ∀ values : Indexed Value, whole.arity ≤ values.count →
        (∀ v ∈ values.toList.take whole.arity, v.fails = false) →
        ∃ text text', t.render (.ofList (values.toList.take t.arity)) = .ok text ∧
          u.render (.ofList (values.toList.drop t.arity)) = .ok text' ∧
          whole.render values = .ok (text ++ text') := by
  obtain ⟨p, rfl, rfl⟩ := compile_eq_ok_iff.mp h
  have herror (e : TemplateError) (he : compile behind = .error e) :
      ∃ index, e = .malformed behind index ∧ compile (p.source ++ behind) =
        .error (.malformed (p.source ++ behind) (p.source.length + index)) := by
    obtain ⟨offset, hscan, rfl⟩ := compile_eq_error_iff.mp he
    exact ⟨_, rfl, Pattern.compile_append_eq_error hseam hscan⟩
  have hok (u : Template) (hu : compile behind = .ok u) :
      ∃ q r : Pattern, u = q.compiled ∧ p.Joins q r ∧
        compile (p.source ++ behind) = .ok r.compiled := by
    obtain ⟨q, rfl, rfl⟩ := compile_eq_ok_iff.mp hu
    obtain ⟨r, hr⟩ := p.exists_joins q fun slot hlast hempty hfirst =>
      p.head?_ne_of_seam hseam slot hlast hempty (Pattern.head?_source_of_first hfirst)
    refine ⟨q, r, rfl, hr, ?_⟩
    rw [← hr.source_eq]
    exact r.compile_source
  refine ⟨⟨?_, ?_⟩, herror, ?_⟩
  · rintro ⟨e, he⟩
    cases hu : compile behind with
    | error e' => exact ⟨e', rfl⟩
    | ok u =>
      obtain ⟨q, r, -, -, hr⟩ := hok u hu
      rw [hr] at he
      cases he
  · rintro ⟨e, he⟩
    obtain ⟨index, -, hwhole⟩ := herror e he
    exact ⟨_, hwhole⟩
  · intro u hu
    obtain ⟨q, r, rfl, hjoins, hr⟩ := hok u hu
    exact ⟨_, hr, hjoins.names_eq, fun values hcount hfails => hjoins.render_eq hcount hfails⟩

/-- A slot before an escaped brace: the text behind it is malformed, or has a slot of its own. -/
theorem compile_append_behind_slot :
    compile "\x7b\x7b\x7d" = .error (.malformed "\x7b\x7b\x7d" 2) ∧
    compile ("日\x7ba\x7d" ++ "\x7b\x7b\x7d") =
      .error (.malformed ("日\x7ba\x7d" ++ "\x7b\x7b\x7d") (4 + 2)) ∧
    ∃ whole, compile ("日\x7ba\x7d" ++ "\x7b\x7b\x7bb\x7d") = .ok whole ∧
      whole.names = ["a", "b"] ∧
      whole.render (.ofList [.str "\x7b", .null]) = .ok "日\x7b\x7bnull" := by
  have h : compile "日\x7ba\x7d" =
      .ok ⟨"日\x7ba\x7d", [.literal 0 "日", .slot 0], ["a"]⟩ := rfl
  have herror : compile "\x7b\x7b\x7d" = .error (.malformed "\x7b\x7b\x7d" 2) := rfl
  have hok : compile "\x7b\x7b\x7bb\x7d" =
      .ok ⟨"\x7b\x7b\x7bb\x7d", [.literal 0 "\x7b", .slot 0], ["b"]⟩ := rfl
  have hhead : "\x7b\x7b\x7d".toList.head? ≠ some '}' := by decide
  have hhead' : "\x7b\x7b\x7bb\x7d".toList.head? ≠ some '}' := by decide
  obtain ⟨-, hmalformed, -⟩ := compile_append h fun _ => hhead
  obtain ⟨-, -, hjoined⟩ := compile_append h fun _ => hhead'
  obtain ⟨index, he, hwhole⟩ := hmalformed _ herror
  obtain ⟨whole, hcompile, hnames, hrender⟩ := hjoined _ hok
  have harity : whole.arity = 2 := congrArg List.length hnames
  obtain ⟨text, text', hfirst, hrest, htext⟩ := hrender (.ofList [.str "\x7b", .null])
    (Nat.le_of_eq harity)
    (by rw [harity, Indexed.toList_ofList]; decide)
  rw [Indexed.toList_ofList] at hfirst hrest
  obtain rfl : "日\x7b" = text := Except.ok.inj hfirst
  obtain rfl : "\x7bnull" = text' := Except.ok.inj hrest
  cases he
  exact ⟨herror, hwhole, whole, hcompile, hnames, htext⟩

-- The brace behind the slot doubles the one that ends it, and the name stays open.
example : compile ("\x7ba\x7d" ++ "\x7d") = .error (.malformed "\x7ba\x7d\x7d" 4) := rfl

end StructuredLog.Template
