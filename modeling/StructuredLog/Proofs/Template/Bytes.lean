import StructuredLog.Proofs.Template.Run
import StructuredLog.Proofs.Text.Bytes
import StructuredLog.Proofs.Text.Slices
import StructuredLog.Template.Bytes

/-!
# Scanning bytes

The bytes of a text are scanned to the same end as its characters. A brace is one byte that no other
character has, so the scanner of bytes takes notice exactly where an atom with a brace stands. The
offsets that it keeps lie behind such atoms, so it slices the text between characters only.
-/

namespace StructuredLog

namespace Template

open Text Atom

/-! ## Bytes of atoms -/

namespace Brace

theorem ofByte?_byte (b : Brace) : ofByte? b.byte = some b := by
  cases b <;> rfl

theorem ofByte?_eq_none {byte : UInt8} (h : ∀ b : Brace, byte ≠ b.byte) : ofByte? byte = none := by
  rw [ofByte?, if_neg (h .opening), if_neg (h .closing)]

theorem utf8EncodeChar_char (b : Brace) : String.utf8EncodeChar b.char = [b.byte] := by
  cases b <;> decide

theorem byte_mem_utf8EncodeChar_iff (b : Brace) (c : Char) :
    b.byte ∈ String.utf8EncodeChar c ↔ c = b.char := by
  cases b with
  | opening => exact mem_utf8EncodeChar_iff (a := '{') (by decide) c
  | closing => exact mem_utf8EncodeChar_iff (a := '}') (by decide) c

@[simp] theorem utf8Size_char (b : Brace) : b.char.utf8Size = 1 := by
  cases b <;> decide

/-- A text begins with the byte of a brace only if it begins with the brace. -/
theorem head?_eq_of_head?_bytes {b : Brace} {cs : List Char}
    (h : (cs.flatMap String.utf8EncodeChar).head? = some b.byte) : cs.head? = some b.char := by
  cases cs with
  | nil => cases h
  | cons c cs =>
    have hmem : b.byte ∈ String.utf8EncodeChar c := by
      cases hc : String.utf8EncodeChar c with
      | nil => exact absurd hc String.utf8EncodeChar_ne_nil
      | cons byte bytes =>
        rw [List.flatMap_cons, hc, List.cons_append, List.head?_cons, Option.some.injEq] at h
        rw [h]
        exact List.mem_cons_self ..
    rw [(byte_mem_utf8EncodeChar_iff b c).mp hmem, List.head?_cons]

end Brace

/-- The bytes of the template that the atom stands for. -/
def Atom.bytes (a : Atom) : List UInt8 :=
  a.source.flatMap String.utf8EncodeChar

theorem Atom.flatMap_bytes (atoms : List Atom) :
    atoms.flatMap bytes = (atoms.flatMap source).flatMap String.utf8EncodeChar := by
  rw [List.flatMap_assoc]
  rfl

theorem Atom.byteSize_append_single (before : List Char) (b : Brace) :
    byteSize (before ++ source (.single b)) = byteSize before + 1 := by
  simp [source, byteSize_append, byteSize]

theorem Atom.byteSize_append_double (before : List Char) (b : Brace) :
    byteSize (before ++ source (.double b)) = byteSize before + 2 := by
  simp [source, byteSize_append, byteSize]

theorem Atom.flatMap_bytes_read (s : String) :
    (read s.toList).flatMap bytes = s.toUTF8.toList := by
  rw [flatMap_bytes, flatMap_source_read, toList_toUTF8]

namespace ByteScan

variable {text : String}

/-- What the bytes of an atom do. -/
def step (text : String) (r : ByteScan) : Atom → Except (Abort TemplateError) ByteScan
  | .plain c => pure { r with offset := r.offset + c.utf8Size }
  | .single b => r.single text b
  | .double b => r.double text b

theorem run_append_of_none {bytes : List UInt8} (h : ∀ byte ∈ bytes, Brace.ofByte? byte = none)
    (r : ByteScan) (behind : List UInt8) :
    r.run text (bytes ++ behind) =
      ({ r with offset := r.offset + bytes.length } : ByteScan).run text behind := by
  induction bytes generalizing r with
  | nil => rfl
  | cons byte bytes ih =>
    rw [List.forall_mem_cons] at h
    rw [List.cons_append, run, h.1]
    simp only
    rw [ih h.2, pass, List.length_cons, Nat.add_assoc, Nat.add_comm 1]

theorem run_plain {c : Char} (hc : ∀ b : Brace, c ≠ b.char) (r : ByteScan)
    (behind : List UInt8) :
    r.run text (bytes (.plain c) ++ behind) =
      ({ r with offset := r.offset + c.utf8Size } : ByteScan).run text behind := by
  have hbytes : bytes (.plain c) = String.utf8EncodeChar c := List.flatMap_singleton _ _
  rw [hbytes, run_append_of_none, String.length_utf8EncodeChar]
  intro byte hbyte
  apply Brace.ofByte?_eq_none
  rintro b rfl
  exact hc b ((b.byte_mem_utf8EncodeChar_iff c).mp hbyte)

theorem run_single {b : Brace} (r : ByteScan) {behind : List UInt8}
    (h : behind.head? ≠ some b.byte) :
    r.run text (bytes (.single b) ++ behind) =
      r.single text b >>= fun r' => r'.run text behind := by
  have hbytes : bytes (.single b) = [b.byte] :=
    (List.flatMap_singleton _ _).trans b.utf8EncodeChar_char
  rw [hbytes, List.singleton_append, run, b.ofByte?_byte]
  cases behind with
  | nil => exact (bind_pure _).symm
  | cons next behind =>
    have hnext : next ≠ b.byte := by simpa using h
    exact if_neg hnext

theorem run_double (r : ByteScan) (b : Brace) (behind : List UInt8) :
    r.run text (bytes (.double b) ++ behind) =
      r.double text b >>= fun r' => r'.run text behind := by
  have hbytes : bytes (.double b) = [b.byte, b.byte] := by
    rw [bytes, source, List.flatMap_cons, List.flatMap_singleton, b.utf8EncodeChar_char]
    rfl
  rw [hbytes, List.cons_append, run, b.ofByte?_byte]
  exact if_pos rfl

theorem run_bytes {a : Atom} {atoms : List Atom} (h : a.Precedes (atoms.flatMap source))
    (r : ByteScan) :
    r.run text (a.bytes ++ atoms.flatMap bytes) =
      r.step text a >>= fun r' => r'.run text (atoms.flatMap bytes) := by
  cases a with
  | plain c => exact run_plain h r _
  | double b => exact run_double r b _
  | single b =>
    apply run_single
    intro hhead
    rw [flatMap_bytes] at hhead
    exact h (Brace.head?_eq_of_head?_bytes hhead)

/-- Bytes are read atom by atom. -/
theorem run_flatMap_bytes {atoms : List Atom} (h : Separated atoms []) (r : ByteScan) :
    r.run text (atoms.flatMap bytes) = atoms.foldlM (step text) r := by
  induction atoms generalizing r with
  | nil => rfl
  | cons a atoms ih =>
    have ha : a.Precedes (atoms.flatMap source) := by simpa using h.1
    rw [List.flatMap_cons, run_bytes ha, List.foldlM_cons]
    exact bind_congr fun r' => ih h.2 r'

end ByteScan

/-! ## Segments in bytes -/

/-- The same segment, with its place in the text instead of its text. -/
def Segment.inBytes : Segment → ByteSegment
  | .literal start text => .literal start (start + text.utf8ByteSize)
  | .slot index => .slot index

/-- Does the literal stand `start` bytes from the beginning of the text? -/
def StandsAt (cs : List Char) (start : Nat) (literal : String) : Prop :=
  ∃ front behind, cs = front ++ literal.toList ++ behind ∧ byteSize front = start

theorem byteLiteral_eq (start : Nat) (text : String) :
    byteLiteral start (start + text.utf8ByteSize) = (literal start text).map Segment.inBytes := by
  by_cases h : text = ""
  · simp [h, byteLiteral, literal]
  · have hsize : text.utf8ByteSize ≠ 0 := by simpa using h
    have hlt : start < start + text.utf8ByteSize := by omega
    simp [h, hlt, byteLiteral, literal, Segment.inBytes]

/-- The segments behind `before`, with their literals and with the places where these stand. -/
structure Keeps (before : List Char) (segments : List Segment) (spans : List ByteSegment) :
    Prop where
  eq_map : spans = segments.map Segment.inBytes
  standsAt : ∀ start text, .literal start text ∈ segments → StandsAt before start text

namespace Keeps

variable {before : List Char} {segments : List Segment} {spans : List ByteSegment}

theorem append (h : Keeps before segments spans) (more : List Char) :
    Keeps (before ++ more) segments spans := by
  refine ⟨h.eq_map, ?_⟩
  intro start text hmem
  obtain ⟨front, behind, rfl, hstart⟩ := h.standsAt start text hmem
  exact ⟨front, behind ++ more, by simp, hstart⟩

theorem append_slot (h : Keeps before segments spans) (index : Nat) :
    Keeps before (segments ++ [.slot index]) (spans ++ [.slot index]) := by
  refine ⟨by simp [h.eq_map, Segment.inBytes], ?_⟩
  intro start text hmem
  exact h.standsAt start text (by simpa using hmem)

/-- A literal that ends somewhere in what was read becomes a segment. -/
theorem append_literal (h : Keeps before segments spans) {front behind : List Char}
    {text : String} (hbefore : before = front ++ text.toList ++ behind) :
    Keeps before (segments ++ literal (byteSize front) text)
      (spans ++ byteLiteral (byteSize front) (byteSize (front ++ text.toList))) := by
  refine ⟨?_, ?_⟩
  · rw [byteSize_append, byteSize_toList, byteLiteral_eq, List.map_append, h.eq_map]
  · intro start text' hmem
    rcases List.mem_append.mp hmem with hmem | hmem
    · exact h.standsAt start text' hmem
    · rw [literal] at hmem
      split at hmem
      · cases hmem
      · obtain ⟨rfl, rfl⟩ : start = byteSize front ∧ text' = text := by simpa using hmem
        exact ⟨front, behind, hbefore, rfl⟩

end Keeps

/-! ## Two scanners at one place -/

/-- What the scanner of bytes keeps of a literal or name that is read up to the end of `before`:
where it begins, or where the run begins that is not copied yet. -/
def Mode.KeptBy (before : List Char) (r : ByteScan) : Mode → Prop
  | .literal start text =>
    ∃ front, before = front ++ text.toList ∧ start = byteSize front ∧
      r.openName = none ∧ r.literalStart = byteSize front
  | .name text => ∃ front run name, before = front ++ run ∧ text = name ++ .ofList run ∧
      r.openName = some ⟨name, byteSize front⟩

/-- Both scanners have read `before`. -/
structure SamePlace (before : List Char) (s : Scan) (r : ByteScan) : Prop where
  offset_left : s.offset = byteSize before
  offset_right : r.offset = byteSize before
  names_eq : r.names = s.names
  keeps : Keeps before s.segments r.segments
  keptBy : s.mode.KeptBy before r

/-- Both scanners have read `before`, or both have failed where it is malformed. -/
inductive SameResult (text : String) (before : List Char) :
    Except Nat Scan → Except (Abort TemplateError) ByteScan → Prop
  | ok {s : Scan} {r : ByteScan} (h : SamePlace before s r) : SameResult text before (.ok s) (.ok r)
  | error (offset : Nat) :
    SameResult text before (.error offset) (.error (.error (.malformedAt text offset)))

theorem ByteScan.malformed_eq {α : Type} {text : String} {before : List Char}
    (h : before <+: text.toList) :
    (malformed text (byteSize before) : Except _ α) =
      .error (.error (.malformedAt text (byteSize before))) := by
  obtain ⟨behind, h⟩ := h
  have hsplit : text.toList = [] ++ before ++ behind := h.symm
  have hslice : slice (ε := TemplateError) text 0 (byteSize before) = .ok (.ofList before) :=
    slice_eq_ok hsplit
  rw [malformed, hslice, TemplateError.malformedAt, ← h, indexOfOffset_append,
    ← String.length_ofList]
  rfl

namespace SameResult

variable {text : String} {before : List Char}

theorem malformed (h : before <+: text.toList) {after : List Char} :
    SameResult text after (.error (byteSize before))
      (ByteScan.malformed text (byteSize before)) := by
  rw [ByteScan.malformed_eq h]
  exact .error _

theorem exists_eq_ok {s : Scan} {y : Except (Abort TemplateError) ByteScan}
    (h : SameResult text before (.ok s) y) : ∃ r, y = .ok r ∧ SamePlace before s r := by
  cases h with
  | ok hplace => exact ⟨_, rfl, hplace⟩

theorem eq_error {offset : Nat} {y : Except (Abort TemplateError) ByteScan}
    (h : SameResult text before (.error offset) y) :
    y = .error (.error (.malformedAt text offset)) := by
  cases h with
  | error _ => rfl

end SameResult

namespace SamePlace

variable {text : String} {before : List Char} {s : Scan} {r : ByteScan}

theorem start : SamePlace [] {} {} :=
  ⟨rfl, rfl, rfl, ⟨rfl, nofun⟩, [], rfl, rfl, rfl, rfl⟩

/-- A single brace ends what stands before it, and a doubled one does so behind its first brace. -/
theorem step_of_literal {start : Nat} {literal : String} (h : SamePlace before s r)
    (hmode : s.mode = .literal start literal) (a : Atom) (htext : before <+: text.toList) :
    SameResult text (before ++ a.source) (s.step a) (r.step text a) := by
  obtain ⟨offset, segments, names, mode⟩ := s
  obtain ⟨rfl, hoffset, hnames, hkeeps, hkept⟩ := h
  cases hmode
  obtain ⟨front, hbefore, rfl, hopen, hstart⟩ := hkept
  cases a with
  | plain c =>
    refine .ok ⟨?_, ?_, hnames, hkeeps.append _, front, ?_, rfl, hopen, hstart⟩
    · simp [byteSize_append]
    · simp [hoffset, source, byteSize_append, byteSize]
    · simp [hbefore, source]
  | double b =>
    have hcut : before ++ source (.double b) =
        front ++ (literal.push b.char).toList ++ [b.char] := by
      simp [hbefore, source]
    have hstop : byteSize (front ++ (literal.push b.char).toList) = byteSize before + 1 := by
      simp [hbefore, byteSize_append, byteSize, Nat.add_assoc]
    have hflush := (hkeeps.append (source (.double b))).append_literal hcut
    have hsize := byteSize_append_double before b
    rw [hstop] at hflush
    simp only [ByteScan.step, ByteScan.double, hopen, hstart, hoffset]
    exact .ok ⟨(byteSize_append ..).symm, hsize.symm, hnames, hflush, _, by simp,
      (byteSize_append ..).symm, rfl, hsize.symm⟩
  | single b =>
    cases b with
    | opening =>
      have hcut : before ++ source (.single .opening) = front ++ literal.toList ++ ['{'] := by
        simp [hbefore, source, Brace.char]
      have hflush := (hkeeps.append (source (.single .opening))).append_literal hcut
      have hsize := byteSize_append_single before .opening
      rw [← hbefore] at hflush
      simp only [ByteScan.step, ByteScan.single, hopen, hstart, hoffset]
      refine .ok ⟨(byteSize_append ..).symm, hsize.symm, hnames, hflush,
        before ++ source (.single .opening), [], "", by simp, rfl, ?_⟩
      rw [hsize]
    | closing =>
      simp only [ByteScan.step, ByteScan.single, hopen, hoffset]
      exact .malformed htext

/-- A doubled brace or the end of the name copies the run before it. -/
theorem step_of_name {name : String} (h : SamePlace before s r)
    (hmode : s.mode = .name name) (a : Atom) (htext : before <+: text.toList) :
    SameResult text (before ++ a.source) (s.step a) (r.step text a) := by
  obtain ⟨offset, segments, names, mode⟩ := s
  obtain ⟨rfl, hoffset, hnames, hkeeps, hkept⟩ := h
  cases hmode
  obtain ⟨front, run, copied, hbefore, rfl, hopen⟩ := hkept
  have hrun : slice (ε := TemplateError) text (byteSize front) (byteSize before) =
      .ok (.ofList run) := by
    obtain ⟨behind, htext⟩ := htext
    rw [hbefore] at htext ⊢
    exact slice_eq_ok htext.symm
  cases a with
  | plain c =>
    refine .ok ⟨?_, ?_, hnames, hkeeps.append _, front, run ++ [c], copied, ?_, ?_, hopen⟩
    · simp [byteSize_append]
    · simp [hoffset, source, byteSize_append, byteSize]
    · simp [hbefore, source]
    · apply String.toList_inj.mp
      simp
  | double b =>
    have hsize := byteSize_append_double before b
    simp only [ByteScan.step, ByteScan.double, hopen, hoffset, hrun]
    refine .ok ⟨(byteSize_append ..).symm, hsize.symm, hnames, hkeeps.append _,
      before ++ source (.double b), [], (copied ++ .ofList run).push b.char, by simp, by simp, ?_⟩
    rw [hsize]
  | single b =>
    cases b with
    | opening =>
      simp only [ByteScan.step, ByteScan.single, hopen, hoffset]
      exact .malformed htext
    | closing =>
      have hsize := byteSize_append_single before .closing
      by_cases hempty : (copied ++ .ofList run).isEmpty = true
      · simp only [ByteScan.step, ByteScan.single, Scan.step, hopen, hoffset, hrun, if_pos hempty,
          bind, Except.bind]
        exact .malformed htext
      · simp only [ByteScan.step, ByteScan.single, Scan.step, hopen, hoffset, hrun, if_neg hempty,
          bind, Except.bind, hnames]
        exact .ok ⟨(byteSize_append ..).symm, hsize.symm, rfl, (hkeeps.append _).append_slot _, _,
          by simp, (byteSize_append ..).symm, rfl, hsize.symm⟩

theorem step (h : SamePlace before s r) (a : Atom) (htext : before <+: text.toList) :
    SameResult text (before ++ a.source) (s.step a) (r.step text a) := by
  cases hmode : s.mode with
  | literal start literal => exact h.step_of_literal hmode a htext
  | name name => exact h.step_of_name hmode a htext

theorem run (h : SamePlace before s r) {atoms : List Atom}
    (htext : before ++ atoms.flatMap source <+: text.toList) :
    SameResult text (before ++ atoms.flatMap source) (s.run atoms)
      (atoms.foldlM (ByteScan.step text) r) := by
  induction atoms generalizing before s r with
  | nil =>
    rw [List.flatMap_nil, List.append_nil]
    exact .ok h
  | cons a atoms ih =>
    rw [List.flatMap_cons, ← List.append_assoc] at htext ⊢
    have hstep := h.step a ((List.prefix_append ..).trans ((List.prefix_append ..).trans htext))
    rw [Scan.run_cons, List.foldlM_cons]
    generalize s.step a = x at hstep ⊢
    generalize r.step text a = y at hstep ⊢
    cases hstep with
    | ok hnext => exact ih hnext htext
    | error offset => exact .error offset

/-- At the end of the text, what is left of a literal becomes a segment. -/
theorem finish (h : SamePlace text.toList s r) :
    SameResult text text.toList s.finish (r.finish text) := by
  obtain ⟨offset, segments, names, mode⟩ := s
  obtain ⟨rfl, hoffset, hnames, hkeeps, hkept⟩ := h
  cases mode with
  | literal start literal =>
    obtain ⟨front, htext, rfl, hopen, hstart⟩ := hkept
    have hcut : text.toList = front ++ literal.toList ++ [] := by rw [htext, List.append_nil]
    have hflush := hkeeps.append_literal hcut
    rw [← htext, byteSize_toList] at hflush
    simp only [Scan.finish, ByteScan.finish, hopen, hstart]
    exact .ok ⟨rfl, hoffset, hnames, hflush, front, htext, rfl, rfl, rfl⟩
  | name name =>
    obtain ⟨front, run, copied, -, rfl, hopen⟩ := hkept
    simp only [Scan.finish, ByteScan.finish, hopen]
    rw [← byteSize_toList]
    exact .malformed List.prefix_rfl

end SamePlace

/-- The bytes of a text are scanned to the same end as its characters. -/
theorem byteScan_same (text : String) :
    SameResult text text.toList (scan text.toList) (byteScan text) := by
  have htext : [] ++ (read text.toList).flatMap source <+: text.toList :=
    ⟨[], by rw [List.append_nil, List.nil_append, flatMap_source_read]⟩
  have hrun := SamePlace.start.run htext
  rw [← ByteScan.run_flatMap_bytes (separated_read text.toList), flatMap_bytes_read,
    flatMap_source_read, List.nil_append] at hrun
  rw [scan, byteScan]
  generalize Scan.run {} (read text.toList) = x at hrun ⊢
  generalize ByteScan.run text {} text.toUTF8.toList = y at hrun ⊢
  cases hrun with
  | ok h => exact h.finish
  | error offset => exact .error offset

/-! ## Compiling -/

/-- The template with the places of its literals in its text. -/
def inBytes (t : Template) : ByteTemplate where
  original := t.original
  segments := t.segments.map Segment.inBytes
  names := t.names

/-- A literal of a compiled text is the slice between its offsets. -/
theorem slice?_of_compile {text : String} {t : Template} (h : compile text = .ok t) {start : Nat}
    {literal : String} (hmem : .literal start literal ∈ t.segments) :
    slice? text start (start + literal.utf8ByteSize) = some literal := by
  have hsame := byteScan_same text
  rw [compile] at h
  cases hscan : scan text.toList with
  | error offset =>
    rw [hscan] at h
    cases h
  | ok s =>
    rw [hscan] at h hsame
    cases h
    obtain ⟨r, -, hplace⟩ := hsame.exists_eq_ok
    obtain ⟨front, behind, htext, rfl⟩ := hplace.keeps.standsAt start literal hmem
    have hslice := slice?_eq_some htext
    rwa [byteSize_append, byteSize_toList, String.ofList_toList] at hslice

end Template

/-- The bytes of a text compile exactly if the text does, to the same template. -/
theorem ByteTemplate.compile_eq (text : String) :
    compile text =
      match Template.compile text with
      | .ok t => .ok t.inBytes
      | .error e => .error (.error e) := by
  have h := Template.byteScan_same text
  rw [compile, Template.compile]
  generalize Template.scan text.toList = x at h ⊢
  generalize Template.byteScan text = y at h ⊢
  cases h with
  | error offset => rfl
  | ok h =>
    show Except.ok (ByteTemplate.mk text _ _) = Except.ok (ByteTemplate.mk text _ _)
    rw [h.keeps.eq_map, h.names_eq]

end StructuredLog
