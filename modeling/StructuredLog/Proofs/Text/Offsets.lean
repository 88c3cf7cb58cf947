import StructuredLog.Text.Utf8

/-!
# Offsets and indices at the same place

Where a text is cut in two, the byte offset of the cut is the size of the first part and its index
is the number of characters of the first part; either is computed from the other.
-/

namespace StructuredLog.Text

theorem byteSize_toList (s : String) : byteSize s.toList = s.utf8ByteSize := by
  obtain ⟨cs, rfl⟩ : ∃ cs, s = String.ofList cs := ⟨s.toList, by simp⟩
  rw [String.toList_ofList]
  induction cs with
  | nil => rfl
  | cons c cs ih =>
    rw [String.ofList_cons, String.utf8ByteSize_append, ← ih]
    simp [byteSize]

theorem indexOfOffset_append_add (s t : List Char) (offset : Nat) :
    indexOfOffset (s ++ t) (byteSize s + offset) = s.length + indexOfOffset t offset := by
  induction s with
  | nil => simp [byteSize]
  | cons c s ih =>
    have hpos := c.utf8Size_pos
    have hsize : byteSize (c :: s) + offset = c.utf8Size + (byteSize s + offset) := by
      simp [byteSize, Nat.add_assoc]
    rw [List.cons_append, indexOfOffset, if_neg (by omega), hsize, Nat.add_sub_cancel_left, ih,
      List.length_cons]
    omega

theorem indexOfOffset_append (s t : List Char) :
    indexOfOffset (s ++ t) (byteSize s) = s.length := by
  have hzero : indexOfOffset t 0 = 0 := by cases t <;> rfl
  simpa [hzero] using indexOfOffset_append_add s t 0

theorem offsetOfIndex_append (s t : List Char) : offsetOfIndex (s ++ t) s.length = byteSize s := by
  simp [offsetOfIndex]

end StructuredLog.Text
