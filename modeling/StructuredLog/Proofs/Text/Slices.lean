import StructuredLog.Proofs.Text.Offsets
import StructuredLog.Text.Slice

/-!
# Where a text can be sliced

A slice is a part of the text with a part before it and a part behind it, whose sizes give the
offsets.
-/

namespace StructuredLog.Text

variable {s : String} {start stop : Nat}

/-- The offset of a boundary is the size of what stands before it. -/
theorem isBoundary_iff {offset : Nat} :
    IsBoundary s offset ↔ ∃ front behind, s = front ++ behind ∧ front.utf8ByteSize = offset := by
  rw [IsBoundary, String.Pos.Raw.isValid_iff_exists_append]
  simp only [String.Pos.Raw.ext_iff, eq_comm]
  rfl

theorem slice?_eq_some_iff {piece : String} :
    slice? s start stop = some piece ↔ ∃ front behind, s = front ++ piece ++ behind ∧
      front.utf8ByteSize = start ∧ (front ++ piece).utf8ByteSize = stop := by
  constructor
  · intro h
    rw [slice?] at h
    split at h
    · rename_i hbounds
      obtain ⟨front, behind, hstart, hstop⟩ :=
        String.copy_slice_eq_iff_splits.mp ⟨hbounds.1, Option.some.inj h⟩
      exact ⟨front, behind, hstop.eq_append,
        (String.Pos.Raw.ext_iff.mp hstart.offset_eq_rawEndPos).symm,
        (String.Pos.Raw.ext_iff.mp hstop.offset_eq_rawEndPos).symm⟩
    · cases h
  · rintro ⟨front, behind, rfl, rfl, rfl⟩
    have hle : front.utf8ByteSize ≤ (front ++ piece).utf8ByteSize := by
      rw [String.utf8ByteSize_append]
      omega
    have hstart : IsBoundary (front ++ piece ++ behind) front.utf8ByteSize :=
      isBoundary_iff.mpr ⟨front, piece ++ behind, String.append_assoc .., rfl⟩
    have hstop : IsBoundary (front ++ piece ++ behind) (front ++ piece).utf8ByteSize :=
      isBoundary_iff.mpr ⟨_, behind, rfl, rfl⟩
    have hcopy : ∃ h, (String.slice _ ⟨_, hstart⟩ ⟨_, hstop⟩ h).copy = piece :=
      String.copy_slice_eq_iff_splits.mpr
        ⟨front, behind, ⟨String.append_assoc .., rfl⟩, ⟨rfl, rfl⟩⟩
    rw [slice?, dif_pos ⟨hle, hstart, hstop⟩]
    exact congrArg some hcopy.2

/-- A slice is there exactly if its offsets are boundaries of the text, in order. -/
theorem exists_slice?_eq_some_iff :
    (∃ piece, slice? s start stop = some piece) ↔
      start ≤ stop ∧ stop ≤ s.utf8ByteSize ∧ IsBoundary s start ∧ IsBoundary s stop := by
  constructor
  · rintro ⟨piece, h⟩
    rw [slice?] at h
    split at h
    · rename_i hbounds
      exact ⟨hbounds.1, String.Pos.Raw.IsValid.le_utf8ByteSize hbounds.2.2, hbounds.2⟩
    · cases h
  · rintro ⟨hle, -, hbounds⟩
    rw [slice?, dif_pos ⟨hle, hbounds⟩]
    exact ⟨_, rfl⟩

/-- What stands between two parts of a text is sliced between their offsets. -/
theorem slice?_eq_some {front piece behind : List Char} (h : s.toList = front ++ piece ++ behind) :
    slice? s (byteSize front) (byteSize (front ++ piece)) = some (.ofList piece) := by
  have hsize (cs : List Char) : (String.ofList cs).utf8ByteSize = byteSize cs := by
    rw [← byteSize_toList, String.toList_ofList]
  refine slice?_eq_some_iff.mpr ⟨.ofList front, .ofList behind, ?_, hsize front, ?_⟩
  · apply String.toList_inj.mp
    simp [h]
  · rw [← String.ofList_append, hsize]

theorem slice_eq_ok {ε : Type} {front piece behind : List Char}
    (h : s.toList = front ++ piece ++ behind) :
    slice (ε := ε) s (byteSize front) (byteSize (front ++ piece)) = .ok (.ofList piece) := by
  rw [slice, slice?_eq_some h]

end StructuredLog.Text
