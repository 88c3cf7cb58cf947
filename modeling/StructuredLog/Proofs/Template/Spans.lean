import StructuredLog.Proofs.Template.Bytes
import StructuredLog.Proofs.Template.Slots

/-!
# What the bytes of a template are for

The literals of a template stand in its text one behind another. A byte that is in none of them
belongs to a slot, with its braces, or is the second brace of a pair outside of slots.
-/

namespace StructuredLog

namespace Template

open Text Atom

/-! ## Places of literals -/

/-- Where a literal begins and where it ends. -/
def ByteSegment.span? : ByteSegment → Option (Nat × Nat)
  | .literal start stop => some (start, stop)
  | .slot _ => none

/-- The places of the literals among the segments, in order. -/
def spansOf (segments : List Segment) : List (Nat × Nat) :=
  segments.filterMap fun segment => segment.inBytes.span?

theorem spansOf_append (segments segments' : List Segment) :
    spansOf (segments ++ segments') = spansOf segments ++ spansOf segments' :=
  List.filterMap_append

theorem spansOf_slot (index : Nat) (segments : List Segment) :
    spansOf (.slot index :: segments) = spansOf segments := rfl

theorem spansOf_literal (start : Nat) (text : String) :
    spansOf (literal start text) =
      if text = "" then [] else [(start, start + text.utf8ByteSize)] := by
  by_cases h : text = ""
  · simp [h, literal, spansOf]
  · simp [h, literal, spansOf, Segment.inBytes, ByteSegment.span?]

/-! ### Their order -/

/-- Do the stretches follow one another between `lo` and `hi`, each with a byte at least? -/
def Ascending : Nat → List (Nat × Nat) → Nat → Prop
  | lo, [], hi => lo ≤ hi
  | lo, span :: spans, hi => lo ≤ span.1 ∧ span.1 < span.2 ∧ Ascending span.2 spans hi

namespace Ascending

variable {lo mid hi : Nat} {spans spans' : List (Nat × Nat)}

theorem append (h : Ascending lo spans mid) (h' : Ascending mid spans' hi) :
    Ascending lo (spans ++ spans') hi := by
  induction spans generalizing lo with
  | nil =>
    cases spans' with
    | nil => exact Nat.le_trans h h'
    | cons span spans' => exact ⟨Nat.le_trans h h'.1, h'.2⟩
  | cons span spans ih => exact ⟨h.1, h.2.1, ih h.2.2⟩

theorem mono (h : Ascending lo spans mid) (hle : mid ≤ hi) : Ascending lo spans hi := by
  have hnil : Ascending mid [] hi := hle
  simpa using h.append hnil

theorem le (h : Ascending lo spans hi) : lo ≤ hi := by
  induction spans generalizing lo with
  | nil => exact h
  | cons span spans ih =>
    have hrest := ih h.2.2
    have hspan := h.2.1
    have hlo := h.1
    omega

theorem of_mem (h : Ascending lo spans hi) {span : Nat × Nat} (hspan : span ∈ spans) :
    lo ≤ span.1 ∧ span.1 < span.2 ∧ span.2 ≤ hi := by
  induction spans generalizing lo with
  | nil => cases hspan
  | cons first spans ih =>
    rcases List.mem_cons.mp hspan with rfl | hspan
    · exact ⟨h.1, h.2.1, h.2.2.le⟩
    · obtain ⟨hlo, hrest⟩ := ih h.2.2 hspan
      have hfirst := h.2.1
      have hle := h.1
      exact ⟨by omega, hrest⟩

theorem pairwise (h : Ascending lo spans hi) : spans.Pairwise fun a b => a.2 ≤ b.1 := by
  induction spans generalizing lo with
  | nil => exact .nil
  | cons span spans ih => exact .cons (fun b hb => (h.2.2.of_mem hb).1) (ih h.2.2)

end Ascending

theorem ascending_literal (start : Nat) (text : String) :
    Ascending start (spansOf (literal start text)) (start + text.utf8ByteSize) := by
  rw [spansOf_literal]
  split
  · exact Nat.le_add_right ..
  · rename_i h
    have hsize : text.utf8ByteSize ≠ 0 := by simpa using h
    exact ⟨Nat.le_refl _, by omega, Nat.le_refl _⟩

theorem utf8Size_of_brace {c : Char} (hc : c = '{' ∨ c = '}') : c.utf8Size = 1 := by
  rcases hc with rfl | rfl
  · exact Brace.opening.utf8Size_char
  · exact Brace.closing.utf8Size_char

/-- The segments of a literal of which `before` is read stay between its beginning and its end. -/
theorem ascending_literalSegments {offset start : Nat} {before : String}
    (h : offset = start + before.utf8ByteSize) (cs : List Char) :
    Ascending start (spansOf (Scan.literalSegments offset start before cs))
      (offset + byteSize ((cs.map ofChar).flatMap source)) := by
  induction cs generalizing offset start before with
  | nil =>
    rw [Scan.literalSegments, h]
    exact ascending_literal start before
  | cons c cs ih =>
    rw [Scan.literalSegments, List.map_cons, List.flatMap_cons, byteSize_append, ← Nat.add_assoc]
    split
    · rename_i hc
      have hsize := utf8Size_of_brace hc
      have hpush : Ascending start (spansOf (literal start (before.push c)))
          (offset + byteSize (ofChar c).source) := by
        apply (ascending_literal start (before.push c)).mono
        simp [source_ofChar, hc, byteSize, hsize, h]
        omega
      rw [spansOf_append]
      exact hpush.append (ih (by simp))
    · rename_i hc
      apply ih
      simp [source_ofChar, hc, byteSize, h, Nat.add_assoc]

theorem ascending_wholeLiteral (offset : Nat) (literal : String) :
    Ascending offset (spansOf (Scan.literalSegments offset offset "" literal.toList))
      (offset + byteSize (escape literal).toList) := by
  have hsize : offset = offset + "".utf8ByteSize := by simp
  rw [← flatMap_source_quoting]
  exact ascending_literalSegments hsize literal.toList

theorem ascending_slotSegments (offset index : Nat) (slots : List Slot) :
    Ascending offset (spansOf (Scan.slotSegments offset index slots))
      (offset + byteSize (String.join (slots.map Slot.source)).toList) := by
  induction slots generalizing offset index with
  | nil => exact Nat.le_add_right ..
  | cons slot slots ih =>
    have hspan : Ascending offset [] (offset + byteSize slot.span.toList) := Nat.le_add_right ..
    have hliteral := ascending_wholeLiteral (offset + byteSize slot.span.toList) slot.literal
    have hslot : offset + byteSize slot.span.toList + byteSize (escape slot.literal).toList =
        offset + byteSize slot.source.toList := by
      rw [Slot.source, String.toList_append, byteSize_append, Nat.add_assoc]
    rw [hslot] at hliteral
    rw [Scan.slotSegments, spansOf_slot, spansOf_append, List.map_cons, String.join_cons,
      String.toList_append, byteSize_append, ← Nat.add_assoc]
    exact (hspan.append hliteral).append (ih _ _)

theorem Pattern.ascending_segments (p : Pattern) :
    Ascending 0 (spansOf p.segments) p.source.utf8ByteSize := by
  have hfirst := ascending_wholeLiteral 0 p.first
  have hslots := ascending_slotSegments (byteSize (escape p.first).toList) 0 p.slots
  rw [Nat.zero_add] at hfirst
  rw [segments, spansOf_append, source, ← byteSize_toList, String.toList_append, byteSize_append]
  exact hfirst.append hslots

/-! ## Roles of bytes -/

/-- What a byte of a template is for: it is written, it is the second brace of a pair in literal
text, or it belongs to a slot with its braces. -/
inductive Role
  | literal
  | doubling
  | slot
  deriving DecidableEq, Repr

def Role.mark (role : Role) (bytes : List UInt8) : List (UInt8 × Role) :=
  bytes.map (·, role)

/-- The bytes of escaped literal text. -/
def literalBytes (cs : List Char) : List (UInt8 × Role) :=
  cs.flatMap fun c =>
    Role.literal.mark (String.utf8EncodeChar c) ++
      if c = '{' ∨ c = '}' then Role.doubling.mark (String.utf8EncodeChar c) else []

def Slot.bytes (slot : Slot) : List (UInt8 × Role) :=
  Role.slot.mark (slot.span.toList.flatMap String.utf8EncodeChar) ++
    literalBytes slot.literal.toList

/-- The bytes of the pattern's source, each with what it is for. -/
def Pattern.bytes (p : Pattern) : List (UInt8 × Role) :=
  literalBytes p.first.toList ++ p.slots.flatMap Slot.bytes

@[simp] theorem Role.length_mark (role : Role) (bytes : List UInt8) :
    (role.mark bytes).length = bytes.length :=
  List.length_map ..

theorem Role.map_fst_mark (role : Role) (bytes : List UInt8) :
    (role.mark bytes).map Prod.fst = bytes := by
  simp [mark, Function.comp_def]

theorem map_fst_literalBytes (literal : String) :
    (literalBytes literal.toList).map Prod.fst = (escape literal).toUTF8.toList := by
  rw [toList_toUTF8, escape, String.toList_ofList, literalBytes, List.map_flatMap,
    List.flatMap_assoc]
  apply List.flatMap_congr
  intro c _
  rw [List.map_append, Role.map_fst_mark]
  split <;> simp [Role.map_fst_mark]

theorem Slot.map_fst_bytes (slot : Slot) :
    slot.bytes.map Prod.fst = slot.source.toUTF8.toList := by
  rw [bytes, List.map_append, Role.map_fst_mark, map_fst_literalBytes, ← toList_toUTF8,
    ← toList_toUTF8_append]
  rfl

theorem Pattern.map_fst_bytes (p : Pattern) : p.bytes.map Prod.fst = p.source.toUTF8.toList := by
  have hslots (slots : List Slot) : (slots.flatMap Slot.bytes).map Prod.fst =
      (String.join (slots.map Slot.source)).toUTF8.toList := by
    induction slots with
    | nil => exact ((toList_toUTF8_eq_nil_iff "").mpr rfl).symm
    | cons slot slots ih =>
      rw [List.flatMap_cons, List.map_append, slot.map_fst_bytes, ih, List.map_cons,
        String.join_cons, toList_toUTF8_append]
  rw [bytes, List.map_append, map_fst_literalBytes, hslots, ← toList_toUTF8_append]
  rfl

/-! ### Bytes at an offset -/

/-- Does a byte with this role stand at `k`, when the first of the bytes stands at `offset`? -/
def HasRole (offset : Nat) (bytes : List (UInt8 × Role)) (role : Role) (k : Nat) : Prop :=
  ∃ i byte, bytes[i]? = some (byte, role) ∧ k = offset + i

section HasRole

variable {offset k : Nat} {role : Role}

theorem hasRole_nil : ¬HasRole offset [] role k := by
  rintro ⟨i, byte, hi, -⟩
  simp at hi

theorem hasRole_append {xs ys : List (UInt8 × Role)} :
    HasRole offset (xs ++ ys) role k ↔
      HasRole offset xs role k ∨ HasRole (offset + xs.length) ys role k := by
  constructor
  · rintro ⟨i, byte, hi, rfl⟩
    rw [List.getElem?_append] at hi
    split at hi
    · exact .inl ⟨i, byte, hi, rfl⟩
    · exact .inr ⟨i - xs.length, byte, hi, by omega⟩
  · rintro (⟨i, byte, hi, rfl⟩ | ⟨i, byte, hi, rfl⟩)
    · obtain ⟨hlt, -⟩ := List.getElem?_eq_some_iff.mp hi
      exact ⟨i, byte, by rw [List.getElem?_append_left hlt, hi], rfl⟩
    · refine ⟨xs.length + i, byte, ?_, Nat.add_assoc ..⟩
      rw [List.getElem?_append_right (Nat.le_add_right ..), Nat.add_sub_cancel_left, hi]

theorem hasRole_mark {role' : Role} {bytes : List UInt8} :
    HasRole offset (role'.mark bytes) role k ↔
      role' = role ∧ offset ≤ k ∧ k < offset + bytes.length := by
  constructor
  · rintro ⟨i, byte, hi, rfl⟩
    rw [Role.mark, List.getElem?_map, Option.map_eq_some_iff] at hi
    obtain ⟨byte', hbyte, heq⟩ := hi
    obtain ⟨hlt, -⟩ := List.getElem?_eq_some_iff.mp hbyte
    cases heq
    exact ⟨rfl, by omega, by omega⟩
  · rintro ⟨rfl, hle, hlt⟩
    have hi : k - offset < bytes.length := by omega
    exact ⟨k - offset, bytes[k - offset], by simp [Role.mark, hi], by omega⟩

/-- Of a brace in literal text the first byte is written, of other characters all are. -/
theorem hasRole_literalBytes_cons (c : Char) (cs : List Char) :
    HasRole offset (literalBytes (c :: cs)) .literal k ↔
      (offset ≤ k ∧ k < offset + c.utf8Size) ∨
        HasRole (offset + byteSize (ofChar c).source) (literalBytes cs) .literal k := by
  have hbytes : literalBytes (c :: cs) = Role.literal.mark (String.utf8EncodeChar c) ++
      ((if c = '{' ∨ c = '}' then Role.doubling.mark (String.utf8EncodeChar c) else []) ++
        literalBytes cs) := by
    rw [literalBytes, List.flatMap_cons, List.append_assoc]
    rfl
  rw [hbytes, hasRole_append, hasRole_append, hasRole_mark, String.length_utf8EncodeChar]
  by_cases hc : c = '{' ∨ c = '}'
  · simp [hc, hasRole_mark, source_ofChar, byteSize, Nat.add_assoc]
  · simp [hc, hasRole_nil, source_ofChar, byteSize]

end HasRole

/-! ## Bytes in literals -/

/-- Does one of the stretches hold the byte at `k`? -/
def Covered (spans : List (Nat × Nat)) (k : Nat) : Prop :=
  ∃ span ∈ spans, span.1 ≤ k ∧ k < span.2

section Covered

variable {k : Nat}

theorem covered_append {spans spans' : List (Nat × Nat)} :
    Covered (spans ++ spans') k ↔ Covered spans k ∨ Covered spans' k := by
  simp [Covered, or_and_right, exists_or]

theorem covered_literal (start : Nat) (text : String) :
    Covered (spansOf (literal start text)) k ↔ start ≤ k ∧ k < start + text.utf8ByteSize := by
  rw [spansOf_literal]
  split
  · rename_i h
    simp [Covered, h]
  · simp [Covered]

/-- A literal of which `before` is read covers this and what is left of it, without the second
braces of pairs. -/
theorem covered_literalSegments {offset start : Nat} {before : String}
    (h : offset = start + before.utf8ByteSize) (cs : List Char) :
    Covered (spansOf (Scan.literalSegments offset start before cs)) k ↔
      (start ≤ k ∧ k < offset) ∨ HasRole offset (literalBytes cs) .literal k := by
  induction cs generalizing offset start before with
  | nil =>
    rw [Scan.literalSegments, covered_literal, h]
    simp [literalBytes, hasRole_nil]
  | cons c cs ih =>
    rw [Scan.literalSegments, hasRole_literalBytes_cons]
    by_cases hc : c = '{' ∨ c = '}'
    · have hsize := utf8Size_of_brace hc
      simp only [if_pos hc]
      rw [spansOf_append, covered_append, covered_literal, ih (by simp), String.utf8ByteSize_push,
        ← or_assoc, ← or_assoc]
      refine or_congr_left ?_
      omega
    · have hnext : offset + byteSize (ofChar c).source = start + (before.push c).utf8ByteSize := by
        simp [source_ofChar, hc, byteSize, h, Nat.add_assoc]
      simp only [if_neg hc]
      rw [ih hnext, hnext, String.utf8ByteSize_push, ← or_assoc]
      refine or_congr_left ?_
      omega

theorem covered_wholeLiteral (offset : Nat) (literal : String) :
    Covered (spansOf (Scan.literalSegments offset offset "" literal.toList)) k ↔
      HasRole offset (literalBytes literal.toList) .literal k := by
  have hsize : offset = offset + "".utf8ByteSize := by simp
  rw [covered_literalSegments hsize]
  constructor
  · rintro (⟨hle, hlt⟩ | h)
    · omega
    · exact h
  · exact .inr

theorem covered_slotSegments (offset index : Nat) (slots : List Slot) :
    Covered (spansOf (Scan.slotSegments offset index slots)) k ↔
      HasRole offset (slots.flatMap Slot.bytes) .literal k := by
  induction slots generalizing offset index with
  | nil => simp [Scan.slotSegments, spansOf, Covered, hasRole_nil]
  | cons slot slots ih =>
    have hbytes : slot.bytes.length = byteSize slot.source.toList := by
      rw [← length_toList_toUTF8, ← slot.map_fst_bytes, List.length_map]
    rw [Scan.slotSegments, spansOf_slot, spansOf_append, covered_append, ih, covered_wholeLiteral,
      List.flatMap_cons, hasRole_append, hbytes, Slot.bytes, hasRole_append, hasRole_mark,
      Role.length_mark, ← toList_toUTF8, length_toList_toUTF8]
    simp

theorem Pattern.covered_segments (p : Pattern) :
    Covered (spansOf p.segments) k ↔ HasRole 0 p.bytes .literal k := by
  have hlength : (literalBytes p.first.toList).length = byteSize (escape p.first).toList := by
    rw [← length_toList_toUTF8, ← map_fst_literalBytes, List.length_map]
  rw [segments, spansOf_append, covered_append, covered_wholeLiteral, covered_slotSegments, bytes,
    hasRole_append, hlength, Nat.zero_add]

theorem Pattern.hasRole_iff (p : Pattern) (role : Role) :
    HasRole 0 p.bytes role k ↔ ∃ byte, p.bytes[k]? = some (byte, role) := by
  constructor
  · rintro ⟨i, byte, hi, rfl⟩
    exact ⟨byte, by rwa [Nat.zero_add]⟩
  · rintro ⟨byte, hk⟩
    exact ⟨k, byte, hk, (Nat.zero_add k).symm⟩

theorem Pattern.not_covered_iff (p : Pattern) (h : k < p.source.utf8ByteSize) :
    ¬Covered (spansOf p.segments) k ↔
      (∃ byte, p.bytes[k]? = some (byte, .slot)) ∨
        ∃ byte, p.bytes[k]? = some (byte, .doubling) := by
  have hlength : k < p.bytes.length := by
    rwa [← List.length_map Prod.fst, p.map_fst_bytes, length_toList_toUTF8, byteSize_toList]
  rw [p.covered_segments, p.hasRole_iff]
  obtain ⟨⟨byte, role⟩, hk⟩ : ∃ marked, p.bytes[k]? = some marked :=
    ⟨_, List.getElem?_eq_getElem hlength⟩
  cases role <;> simp [hk]

end Covered

/-! ## The text divided -/

/-- How a template divides its text, which is the source of the pattern. The segments have the
literals where these stand in the text, in order and apart, and the slots in the order of their
values. What no literal holds belongs to a slot or doubles a brace. -/
structure Divides (t : Template) (text : String) (p : Pattern) : Prop where
  source_eq : p.source = text
  bytes_eq : p.bytes.map Prod.fst = text.toUTF8.toList
  compile_eq : ByteTemplate.compile text = .ok t.inBytes
  slice?_eq : ∀ start literal, .literal start literal ∈ t.segments →
    slice? text start (start + literal.utf8ByteSize) = some literal
  bounds : ∀ span ∈ spansOf t.segments, span.1 < span.2 ∧ span.2 ≤ text.utf8ByteSize
  pairwise : (spansOf t.segments).Pairwise fun a b => a.2 ≤ b.1
  slots_eq : t.segments.filterMap Segment.slot? = List.range t.names.length
  names_ne_empty : ∀ name ∈ t.names, name ≠ ""
  not_covered_iff : ∀ k < text.utf8ByteSize, ¬Covered (spansOf t.segments) k ↔
    (∃ byte, p.bytes[k]? = some (byte, .slot)) ∨ ∃ byte, p.bytes[k]? = some (byte, .doubling)

/-- The literals of a compiled template are stretches of its text, none of them empty, one behind
another, and its slots count up from zero. A byte is in no literal exactly if it belongs to a slot
with its braces, or is the second brace of a pair in the literal text around the slots. The bytes of
the text compile to the same segments. -/
theorem segments_divide_text {text : String} {t : Template} (h : compile text = .ok t) :
    ∃ p, Divides t text p := by
  obtain ⟨p, rfl, rfl⟩ := compile_eq_ok_iff.mp h
  refine ⟨p, rfl, p.map_fst_bytes, ?_, ?_, ?_, ?_, ?_, ?_, ?_⟩
  · rw [ByteTemplate.compile_eq, h]
  · intro start literal hmem
    exact slice?_of_compile h hmem
  · intro span hspan
    exact (p.ascending_segments.of_mem hspan).2
  · exact p.ascending_segments.pairwise
  · exact filterMap_slot?_segments h
  · intro name hname
    obtain ⟨slot, -, rfl⟩ := List.mem_map.mp hname
    exact slot.name_ne_empty
  · intro k hk
    exact p.not_covered_iff hk

/-- A pair of braces before a slot, and one in its name. -/
theorem segments_divide_text_pairs :
    let p : Pattern := ⟨"é\x7b", [⟨"a\x7db", "-", by decide, by decide, by decide⟩]⟩
    ∃ t, compile "é\x7b\x7b\x7ba\x7d\x7db\x7d-" = .ok t ∧
      spansOf t.segments = [(0, 3), (10, 11)] ∧
      p.bytes.map Prod.snd = [.literal, .literal, .literal, .doubling, .slot, .slot, .slot, .slot,
        .slot, .slot, .literal] ∧
      Divides t "é\x7b\x7b\x7ba\x7d\x7db\x7d-" p := by
  intro p
  have h : compile "é\x7b\x7b\x7ba\x7d\x7db\x7d-" = .ok ⟨"é\x7b\x7b\x7ba\x7d\x7db\x7d-",
      [.literal 0 "é\x7b", .slot 0, .literal 10 "-"], ["a\x7db"]⟩ := rfl
  have hp : p.source = "é\x7b\x7b\x7ba\x7d\x7db\x7d-" := by decide
  obtain ⟨q, hq⟩ := segments_divide_text h
  obtain rfl : q = p := Pattern.source_injective (hq.source_eq.trans hp.symm)
  exact ⟨_, h, by decide, by decide, hq⟩

end Template

end StructuredLog
