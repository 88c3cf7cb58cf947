import StructuredLog.Proofs.Template.Pattern
import StructuredLog.Template.Scan

/-!
# Runs of the scanner

What a run leaves behind: its offset is the size of what it read, a run over the atoms of a pattern
yields the segments and names of that pattern, and a run that ends well has read the atoms of some
pattern. A run that fails does so at a single brace.
-/

namespace StructuredLog.Template

open Text Atom

namespace Scan

theorem run_cons (s : Scan) (a : Atom) (atoms : List Atom) :
    s.run (a :: atoms) = s.step a >>= fun s' => s'.run atoms := rfl

theorem run_cons_of_ok {s s' : Scan} {a : Atom} (h : s.step a = .ok s') (atoms : List Atom) :
    s.run (a :: atoms) = s'.run atoms := by
  rw [run_cons, h]
  rfl

theorem run_cons_of_error {s : Scan} {a : Atom} {offset : Nat} (h : s.step a = .error offset)
    (atoms : List Atom) : s.run (a :: atoms) = .error offset := by
  rw [run_cons, h]
  rfl

theorem run_append_of_ok {s s' : Scan} {xs : List Atom} (h : s.run xs = .ok s')
    (ys : List Atom) : s.run (xs ++ ys) = s'.run ys := by
  rw [run_append, h]
  rfl

theorem run_cons_eq_ok {s s' : Scan} {a : Atom} {atoms : List Atom} :
    s.run (a :: atoms) = .ok s' ↔ ∃ s₁, s.step a = .ok s₁ ∧ s₁.run atoms = .ok s' := by
  rw [run_cons]
  cases s.step a with
  | error offset => simp [bind, Except.bind]
  | ok s₁ => simp [bind, Except.bind]

/-- A scan ends as its run does, unless the text ends inside a name. -/
theorem scan_of_run_eq_ok {text : List Char} {s : Scan} (h : run {} (read text) = .ok s) :
    scan text = s.finish := by
  rw [scan, h]
  rfl

theorem scan_of_run_eq_error {text : List Char} {offset : Nat}
    (h : run {} (read text) = .error offset) : scan text = .error offset := by
  rw [scan, h]
  rfl

/-! ## Offsets -/

theorem offset_step {s s' : Scan} {a : Atom} (h : s.step a = .ok s') :
    s'.offset = s.offset + byteSize a.source := by
  obtain ⟨offset, segments, names, mode⟩ := s
  cases mode with
  | literal start text =>
    cases a with
    | plain c => cases h; rfl
    | double b => cases h; rfl
    | single b => cases b <;> cases h; rfl
  | name text =>
    cases a with
    | plain c => cases h; rfl
    | double b => cases h; rfl
    | single b =>
      cases b with
      | opening => cases h
      | closing =>
        simp only [step] at h
        split at h
        · cases h
        · cases h; rfl

theorem offset_run {s s' : Scan} {atoms : List Atom} (h : s.run atoms = .ok s') :
    s'.offset = s.offset + byteSize (atoms.flatMap source) := by
  induction atoms generalizing s with
  | nil =>
    cases h
    simp [byteSize]
  | cons a atoms ih =>
    obtain ⟨s₁, ha, h⟩ := run_cons_eq_ok.mp h
    rw [ih h, offset_step ha, List.flatMap_cons, byteSize_append, Nat.add_assoc]

/-! ## Failures -/

/-- A step fails at the offset before the atom, which is a single brace. -/
theorem eq_single_of_step_eq_error {s : Scan} {a : Atom} {offset : Nat}
    (h : s.step a = .error offset) : offset = s.offset ∧ ∃ b, a = .single b := by
  obtain ⟨offset', segments, names, mode⟩ := s
  cases mode with
  | literal start text =>
    cases a with
    | plain c => cases h
    | double b => cases h
    | single b => cases b <;> cases h; exact ⟨rfl, _, rfl⟩
  | name text =>
    cases a with
    | plain c => cases h
    | double b => cases h
    | single b =>
      cases b with
      | opening => cases h; exact ⟨rfl, _, rfl⟩
      | closing =>
        simp only [step] at h
        split at h
        · cases h; exact ⟨rfl, _, rfl⟩
        · cases h

/-- A run that fails does so behind the atoms before a single brace. -/
theorem split_of_run_eq_error {s : Scan} {atoms : List Atom} {offset : Nat}
    (h : s.run atoms = .error offset) :
    ∃ xs b ys s', atoms = xs ++ .single b :: ys ∧ s.run xs = .ok s' ∧
      s'.step (.single b) = .error offset ∧ offset = s'.offset := by
  induction atoms generalizing s with
  | nil => cases h
  | cons a atoms ih =>
    cases ha : s.step a with
    | error offset' =>
      rw [run_cons_of_error ha] at h
      cases h
      obtain ⟨ho, b, rfl⟩ := eq_single_of_step_eq_error ha
      exact ⟨[], b, atoms, s, rfl, rfl, ha, ho⟩
    | ok s₁ =>
      rw [run_cons_of_ok ha] at h
      obtain ⟨xs, b, ys, s', rfl, hrun, hstep, ho⟩ := ih h
      exact ⟨a :: xs, b, ys, s', rfl, run_cons_eq_ok.mpr ⟨s₁, ha, hrun⟩, hstep, ho⟩

/-! ## Whole patterns -/

/-- The segments of a text that stands escaped at `offset`, when `text` is already read of a literal
that began at `start`. Each brace ends a literal. -/
def literalSegments (offset start : Nat) (text : String) : List Char → List Segment
  | [] => literal start text
  | c :: rest =>
    let next := offset + byteSize (ofChar c).source
    if c = '{' ∨ c = '}' then
      literal start (text.push c) ++ literalSegments next next "" rest
    else literalSegments next start (text.push c) rest

/-- The segments of slots that stand at `offset` and take the values from `index` on. -/
def slotSegments (offset index : Nat) : List Slot → List Segment
  | [] => []
  | slot :: slots =>
    let behind := offset + byteSize slot.span.toList
    .slot index :: (literalSegments behind behind "" slot.literal.toList ++
      slotSegments (offset + byteSize slot.source.toList) (index + 1) slots)

/-- The segments so far, with the literal that is still being read. -/
def flushed (s : Scan) : List Segment :=
  match s.mode with
  | .literal start text => s.segments ++ literal start text
  | .name _ => s.segments

def InLiteral (s : Scan) : Prop :=
  ∃ start text, s.mode = .literal start text

/-! ### Escaped text -/

theorem push_append_ofList (s : String) (c : Char) (cs : List Char) :
    s.push c ++ String.ofList cs = s ++ String.ofList (c :: cs) := by
  simp [String.ext_iff]

theorem step_ofChar_name {s : Scan} {text : String} (c : Char) (h : s.mode = .name text) :
    s.step (ofChar c) = .ok { s with
      offset := s.offset + byteSize (ofChar c).source
      mode := .name (text.push c) } := by
  obtain ⟨b, rfl, ha⟩ | ⟨-, ha⟩ := ofChar_cases c <;> simp [ha, step, h]

theorem step_ofChar_literal {s : Scan} {start : Nat} {text : String} (c : Char)
    (h : s.mode = .literal start text) :
    let offset := s.offset + byteSize (ofChar c).source
    s.step (ofChar c) = .ok (if c = '{' ∨ c = '}' then
      { s with
        offset
        segments := s.segments ++ literal start (text.push c)
        mode := .literal offset "" }
      else { s with offset, mode := .literal start (text.push c) }) := by
  obtain ⟨b, rfl, ha⟩ | ⟨hc, ha⟩ := ofChar_cases c
  · have hbrace : b.char = '{' ∨ b.char = '}' := by cases b <;> simp [Brace.char]
    simp [ha, step, h, hbrace]
  · have hbrace : ¬(c = '{' ∨ c = '}') := by
      rintro (rfl | rfl)
      · exact hc .opening rfl
      · exact hc .closing rfl
    simp [ha, step, h, hbrace]

theorem run_quoting_name (s : Scan) (before text : String) (h : s.mode = .name before) :
    s.run (quoting text) = .ok { s with
      offset := s.offset + byteSize (escape text).toList
      mode := .name (before ++ text) } := by
  rw [← flatMap_source_quoting]
  obtain ⟨cs, rfl⟩ : ∃ cs, text = String.ofList cs := ⟨text.toList, by simp⟩
  induction cs generalizing s before with
  | nil =>
    obtain ⟨offset, segments, names, mode⟩ := s
    cases h
    simp [quoting, run, byteSize]
    rfl
  | cons c cs ih =>
    rw [quoting_ofList_cons, run_cons_of_ok (step_ofChar_name c h)]
    refine (ih _ (before.push c) rfl).trans ?_
    rw [push_append_ofList, List.flatMap_cons, byteSize_append, Nat.add_assoc]

/-- Reading escaped text in a literal leaves all its segments behind, the last of them pending. -/
theorem run_quoting_literal (s : Scan) (start : Nat) (before text : String)
    (h : s.mode = .literal start before) :
    ∃ s', s.run (quoting text) = .ok s' ∧ s'.InLiteral ∧ s'.names = s.names ∧
      s'.flushed = s.segments ++ literalSegments s.offset start before text.toList := by
  obtain ⟨cs, rfl⟩ : ∃ cs, text = String.ofList cs := ⟨text.toList, by simp⟩
  rw [String.toList_ofList]
  induction cs generalizing s start before with
  | nil => exact ⟨s, rfl, ⟨start, before, h⟩, rfl, by simp [flushed, h, literalSegments]⟩
  | cons c cs ih =>
    rw [quoting_ofList_cons, run_cons_of_ok (step_ofChar_literal c h), literalSegments]
    by_cases hc : c = '{' ∨ c = '}'
    · simp only [if_pos hc, ← List.append_assoc]
      exact ih _ _ _ rfl
    · simp only [if_neg hc]
      exact ih _ _ _ rfl

/-! ### Slots -/

theorem byteSize_source_single (b : Brace) : byteSize (source (.single b)) = 1 := by
  cases b <;> decide

theorem byteSize_span (slot : Slot) :
    byteSize slot.span.toList = 1 + byteSize (escape slot.name).toList + 1 := by
  have ho : byteSize "\x7b".toList = 1 := by decide
  have hc : byteSize "\x7d".toList = 1 := by decide
  rw [Slot.span, String.toList_append, String.toList_append, byteSize_append, byteSize_append, ho,
    hc]

theorem step_single_opening {s : Scan} {start : Nat} {text : String}
    (h : s.mode = .literal start text) :
    s.step (.single .opening) =
      .ok { s with offset := s.offset + 1, segments := s.flushed, mode := .name "" } := by
  simp [step, h, flushed, byteSize_source_single]

theorem step_single_closing {s : Scan} {text : String} (h : s.mode = .name text)
    (hne : text ≠ "") :
    s.step (.single .closing) = .ok {
      offset := s.offset + 1
      segments := s.segments ++ [.slot s.names.length]
      names := s.names ++ [text]
      mode := .literal (s.offset + 1) "" } := by
  simp [step, h, hne, byteSize_source_single]

/-- Reading a slot flushes the literal before it and starts the one behind it. -/
theorem run_slot (s : Scan) (slot : Slot) (h : s.InLiteral) :
    ∃ s', s.run slot.atoms = .ok s' ∧ s'.InLiteral ∧ s'.names = s.names ++ [slot.name] ∧
      s'.flushed = s.flushed ++ slotSegments s.offset s.names.length [slot] := by
  obtain ⟨start, text, h⟩ := h
  let s₁ : Scan := { s with
    offset := s.offset + 1, segments := s.flushed, mode := .name "" }
  let s₂ : Scan := { s₁ with
    offset := s₁.offset + byteSize (escape slot.name).toList
    mode := .name ("" ++ slot.name) }
  let s₃ : Scan := {
    offset := s.offset + byteSize slot.span.toList
    segments := s.flushed ++ [.slot s.names.length]
    names := s.names ++ [slot.name]
    mode := .literal (s.offset + byteSize slot.span.toList) "" }
  have hopen : s.step (.single .opening) = .ok s₁ := step_single_opening h
  have hname : s₁.run (quoting slot.name) = .ok s₂ := run_quoting_name s₁ "" slot.name rfl
  have hclose : s₂.step (.single .closing) = .ok s₃ := by
    have hne : "" ++ slot.name ≠ "" := by simpa using slot.name_ne_empty
    rw [step_single_closing rfl hne]
    simp [s₁, s₂, s₃, byteSize_span, Nat.add_assoc]
  obtain ⟨s', hrun, hmode, hnames, hflushed⟩ := run_quoting_literal s₃ _ _ slot.literal rfl
  refine ⟨s', ?_, hmode, hnames, ?_⟩
  · rw [Slot.atoms, run_cons_of_ok hopen, run_append_of_ok hname, run_cons_of_ok hclose]
    exact hrun
  · rw [hflushed]
    simp [slotSegments, s₃]

theorem run_slots (s : Scan) (slots : List Slot) (h : s.InLiteral) :
    ∃ s', s.run (slots.flatMap Slot.atoms) = .ok s' ∧ s'.InLiteral ∧
      s'.names = s.names ++ slots.map Slot.name ∧
      s'.flushed = s.flushed ++ slotSegments s.offset s.names.length slots := by
  induction slots generalizing s with
  | nil => exact ⟨s, rfl, h, by simp, by simp [slotSegments]⟩
  | cons slot slots ih =>
    obtain ⟨s₁, hrun₁, hmode₁, hnames₁, hflushed₁⟩ := run_slot s slot h
    obtain ⟨s', hrun, hmode, hnames, hflushed⟩ := ih s₁ hmode₁
    have hoffset : s₁.offset = s.offset + byteSize slot.source.toList := by
      rw [offset_run hrun₁, slot.flatMap_source_atoms]
    refine ⟨s', ?_, hmode, by simp [hnames, hnames₁], ?_⟩
    · rw [List.flatMap_cons, run_append_of_ok hrun₁]
      exact hrun
    · rw [hflushed, hflushed₁, hnames₁, hoffset]
      simp [slotSegments]

theorem finish_of_inLiteral {s : Scan} (h : s.InLiteral) :
    ∃ s', s.finish = .ok s' ∧ s'.segments = s.flushed ∧ s'.names = s.names := by
  obtain ⟨start, text, h⟩ := h
  refine ⟨{ s with segments := s.flushed }, ?_, rfl, rfl⟩
  simp [finish, h, flushed]

end Scan

/-- The segments of the pattern's source. -/
def Pattern.segments (p : Pattern) : List Segment :=
  Scan.literalSegments 0 0 "" p.first.toList ++
    Scan.slotSegments (Text.byteSize (escape p.first).toList) 0 p.slots

theorem Pattern.scan_source (p : Pattern) :
    ∃ s, scan p.source.toList = .ok s ∧ s.segments = p.segments ∧ s.names = p.names := by
  obtain ⟨s₁, hrun₁, hmode₁, hnames₁, hflushed₁⟩ :=
    Scan.run_quoting_literal {} 0 "" p.first rfl
  obtain ⟨s₂, hrun₂, hmode₂, hnames₂, hflushed₂⟩ := s₁.run_slots p.slots hmode₁
  obtain ⟨s, hfinish, hsegments, hnames⟩ := Scan.finish_of_inLiteral hmode₂
  have hoffset : s₁.offset = Text.byteSize (escape p.first).toList := by
    rw [Scan.offset_run hrun₁, flatMap_source_quoting, Nat.zero_add]
  have hrun : Scan.run {} (read p.source.toList) = .ok s₂ := by
    rw [p.read_source, atoms, Scan.run_append_of_ok hrun₁, hrun₂]
  refine ⟨s, ?_, ?_, ?_⟩
  · rw [Scan.scan_of_run_eq_ok hrun]
    exact hfinish
  · rw [hsegments, hflushed₂, hflushed₁, hoffset, hnames₁]
    simp [segments]
  · rw [hnames, hnames₂, hnames₁]
    simp [names]

/-! ## Accepted texts -/

namespace Scan

/-- The atoms with which a scanner in this mode can come to a good end: in a literal, the rest of it
and slots; in a name that began with `before`, the rest of it and what follows a name. -/
def Continuation : Mode → List Atom → Prop
  | .literal _ _, atoms =>
    ∃ (text : String) (slots : List Slot), atoms = quoting text ++ slots.flatMap Slot.atoms
  | .name before, atoms =>
    ∃ (name literal : String) (slots : List Slot), before ++ name ≠ "" ∧
      literal.toList.head? ≠ some '}' ∧
      atoms = quoting name ++ .single .closing :: (quoting literal ++ slots.flatMap Slot.atoms)

theorem continuation_cons {s s' : Scan} {a : Atom} {atoms : List Atom}
    (h : s.step a = .ok s') (ha : a.Precedes (atoms.flatMap source))
    (hc : Continuation s'.mode atoms) : Continuation s.mode (a :: atoms) := by
  obtain ⟨c, rfl⟩ | ⟨b, rfl⟩ := ha.ofChar_or_single
  · cases hm : s.mode with
    | literal start text =>
      rw [step_ofChar_literal c hm] at h
      obtain ⟨rest, slots, rfl⟩ : Continuation (.literal start text) atoms := by
        split at h <;> cases h <;> exact hc
      exact ⟨.ofList (c :: rest.toList), slots, by simp [quoting]⟩
    | name text =>
      rw [step_ofChar_name c hm] at h
      cases h
      obtain ⟨name, literal, slots, hname, hliteral, rfl⟩ := hc
      refine ⟨.ofList (c :: name.toList), literal, slots, ?_, hliteral, by simp [quoting]⟩
      simp
  · cases hm : s.mode with
    | literal start text =>
      cases b with
      | closing => simp [step, hm] at h
      | opening =>
        simp only [step, hm] at h
        cases h
        obtain ⟨name, literal, slots, hname, hliteral, rfl⟩ := hc
        have hhead : name.toList.head? ≠ some '{' := by
          intro hn
          apply ha
          rw [List.flatMap_append, head?_source_quoting, hn]
          rfl
        exact ⟨"", ⟨name, literal, by simpa using hname, hhead, hliteral⟩ :: slots,
          by simp [quoting, Slot.atoms]⟩
    | name text =>
      cases b with
      | opening => simp [step, hm] at h
      | closing =>
        simp only [step, hm] at h
        split at h
        · cases h
        · rename_i htext
          cases h
          obtain ⟨literal, slots, rfl⟩ := hc
          refine ⟨"", literal, slots, by simpa using htext, ?_, by simp [quoting]⟩
          intro hl
          apply ha
          rw [List.flatMap_append, head?_source_quoting, hl]
          rfl

theorem continuation_of_run {s s' s'' : Scan} {atoms : List Atom} (ha : Separated atoms [])
    (h : s.run atoms = .ok s') (hf : s'.finish = .ok s'') : Continuation s.mode atoms := by
  induction atoms generalizing s with
  | nil =>
    cases h
    cases hm : s'.mode with
    | literal start text => exact ⟨"", [], rfl⟩
    | name text => simp [finish, hm] at hf
  | cons a atoms ih =>
    obtain ⟨s₁, hs, h⟩ := run_cons_eq_ok.mp h
    exact continuation_cons hs (by simpa using ha.1) (ih ha.2 h)

end Scan

/-- A text that is scanned to its end is the source of a pattern. -/
theorem exists_pattern_of_scan {text : String} {s : Scan} (h : scan text.toList = .ok s) :
    ∃ p : Pattern, p.source = text := by
  cases hrun : Scan.run {} (read text.toList) with
  | error offset =>
    rw [Scan.scan_of_run_eq_error hrun] at h
    cases h
  | ok s₁ =>
    rw [Scan.scan_of_run_eq_ok hrun] at h
    obtain ⟨first, slots, hread⟩ :=
      Scan.continuation_of_run (separated_read text.toList) hrun h
    refine ⟨⟨first, slots⟩, String.toList_inj.mp ?_⟩
    rw [← Pattern.flatMap_source_atoms, ← flatMap_source_read text.toList, hread]
    rfl

end StructuredLog.Template
