import StructuredLog.Text.Utf8

/-!
# Bytes of a text

The UTF-8 form of a text is that of its characters in turn. A byte of ASCII stands only for its own
character, and never inside another one.
-/

namespace StructuredLog.Text

/-! ## Bytes of a text -/

theorem toList_loop (bytes : ByteArray) (i : Nat) (before : List UInt8) :
    ByteArray.toList.loop bytes i before = before.reverse ++ bytes.data.toList.drop i := by
  fun_induction ByteArray.toList.loop bytes i before with
  | case1 i before h ih =>
    have hlength : i < bytes.data.toList.length := by simpa using h
    have hget : bytes.get! i = bytes.data.toList[i] := by
      show bytes.data[i]! = _
      rw [getElem!_pos bytes.data i h, Array.getElem_toList]
    rw [ih, List.reverse_cons, List.append_assoc, List.drop_eq_getElem_cons hlength, hget,
      List.singleton_append]
  | case2 i before h =>
    rw [List.drop_eq_nil_of_le (by simpa using h), List.append_nil]

theorem toList_toUTF8 (s : String) : s.toUTF8.toList = s.toList.flatMap String.utf8EncodeChar := by
  show s.toByteArray.toList = _
  rw [ByteArray.toList, toList_loop, ← String.utf8Encode_toList, List.utf8Encode,
    List.toList_data_toByteArray]
  rfl

theorem toList_toUTF8_append (s t : String) :
    (s ++ t).toUTF8.toList = s.toUTF8.toList ++ t.toUTF8.toList := by
  rw [toList_toUTF8, String.toList_append, List.flatMap_append, ← toList_toUTF8, ← toList_toUTF8]

theorem toList_toUTF8_eq_nil_iff (s : String) : s.toUTF8.toList = [] ↔ s = "" := by
  rw [toList_toUTF8, List.flatMap_eq_nil_iff, ← String.toList_eq_nil_iff,
    List.eq_nil_iff_forall_not_mem]
  simp only [String.utf8EncodeChar_ne_nil, imp_false]

theorem length_toList_toUTF8 (s : String) : s.toUTF8.toList.length = byteSize s.toList := by
  rw [toList_toUTF8]
  induction s.toList with
  | nil => rfl
  | cons c cs ih =>
    rw [List.flatMap_cons, List.length_append, ih, String.length_utf8EncodeChar, byteSize]

/-! ## Bytes of ASCII -/

/-- A character beyond ASCII has no byte in common with ASCII. -/
theorem le_of_mem_utf8EncodeChar {c : Char} (hc : 127 < c.val.toNat) {b : UInt8}
    (hb : b ∈ String.utf8EncodeChar c) : 128 ≤ b.toNat := by
  rw [String.utf8EncodeChar.eq_1, if_neg (by omega)] at hb
  repeat' split at hb
  all_goals
    simp only [List.mem_cons, List.not_mem_nil, or_false] at hb
    rcases hb with rfl | rfl | rfl | rfl
  all_goals
    rw [UInt8.toNat_ofNat']
    omega

/-- The UTF-8 form of a character of ASCII is one byte. -/
theorem utf8EncodeChar_of_le {c : Char} (hc : c.val.toNat ≤ 127) :
    String.utf8EncodeChar c = [UInt8.ofNat c.val.toNat] := by
  rw [String.utf8EncodeChar.eq_1, if_pos hc]

theorem mem_utf8EncodeChar_iff {a : Char} (ha : a.val.toNat ≤ 127) (c : Char) :
    UInt8.ofNat a.val.toNat ∈ String.utf8EncodeChar c ↔ c = a := by
  constructor
  · intro h
    have hle : c.val.toNat ≤ 127 := by
      refine Nat.le_of_not_lt fun hlt => ?_
      have hbyte := le_of_mem_utf8EncodeChar hlt h
      rw [UInt8.toNat_ofNat'] at hbyte
      omega
    rw [utf8EncodeChar_of_le hle, List.mem_singleton, ← UInt8.toNat_inj, UInt8.toNat_ofNat',
      UInt8.toNat_ofNat', Nat.mod_eq_of_lt (by omega), Nat.mod_eq_of_lt (by omega)] at h
    rw [← Char.val_inj, ← UInt32.toNat_inj]
    exact h.symm
  · rintro rfl
    rw [utf8EncodeChar_of_le ha]
    exact List.mem_singleton_self _

end StructuredLog.Text
