import StructuredLog.Proofs.Text.Bytes

/-!
# Line breaks in bytes

In the UTF-8 form of a text the byte of a line break stands only for a line break. So lines without
one inside can be told apart in bytes: split at line breaks, their bytes are the lines again.
-/

namespace StructuredLog.Text

/-! ## The byte of a line break -/

/-- The byte of a line break. -/
def newline : UInt8 := 10

theorem newline_mem_utf8EncodeChar_iff (c : Char) :
    newline ∈ String.utf8EncodeChar c ↔ c = '\n' :=
  mem_utf8EncodeChar_iff (a := '\n') (by decide) c

theorem newline_mem_toUTF8_iff (s : String) : newline ∈ s.toUTF8.toList ↔ '\n' ∈ s.toList := by
  rw [toList_toUTF8, List.mem_flatMap]
  simp only [newline_mem_utf8EncodeChar_iff, exists_eq_right]

theorem toList_toUTF8_newline : "\n".toUTF8.toList = [newline] := by
  rw [toList_toUTF8]
  decide

/-! ## Counting line breaks -/

/-- The number of line breaks in a text. -/
def lineBreaks (s : String) : Nat :=
  s.toList.count '\n'

theorem count_newline_utf8EncodeChar (c : Char) :
    (String.utf8EncodeChar c).count newline = [c].count '\n' := by
  by_cases hc : c = '\n'
  · rw [hc]
    decide
  · rw [List.count_eq_zero_of_not_mem, List.count_eq_zero_of_not_mem]
    · simpa [eq_comm] using hc
    · rwa [newline_mem_utf8EncodeChar_iff]

theorem count_newline_toUTF8 (s : String) : s.toUTF8.toList.count newline = lineBreaks s := by
  rw [toList_toUTF8, lineBreaks]
  induction s.toList with
  | nil => rfl
  | cons c cs ih =>
    rw [List.flatMap_cons, List.count_append, ih, count_newline_utf8EncodeChar,
      ← List.count_append, List.singleton_append]

@[simp] theorem lineBreaks_append (s t : String) :
    lineBreaks (s ++ t) = lineBreaks s + lineBreaks t := by
  rw [lineBreaks, String.toList_append, List.count_append, lineBreaks, lineBreaks]

theorem lineBreaks_eq_zero_iff {s : String} : lineBreaks s = 0 ↔ '\n' ∉ s.toList :=
  List.count_eq_zero

/-- The number of line breaks in several texts. -/
def totalBreaks : List String → Nat
  | [] => 0
  | s :: texts => lineBreaks s + totalBreaks texts

@[simp] theorem totalBreaks_nil : totalBreaks [] = 0 := rfl

@[simp] theorem totalBreaks_cons (s : String) (texts : List String) :
    totalBreaks (s :: texts) = lineBreaks s + totalBreaks texts := rfl

@[simp] theorem totalBreaks_append (texts texts' : List String) :
    totalBreaks (texts ++ texts') = totalBreaks texts + totalBreaks texts' := by
  induction texts with
  | nil => rw [List.nil_append, totalBreaks_nil, Nat.zero_add]
  | cons s texts ih => rw [List.cons_append, totalBreaks_cons, ih, totalBreaks_cons, Nat.add_assoc]

theorem totalBreaks_eq_zero_iff {texts : List String} :
    totalBreaks texts = 0 ↔ ∀ s ∈ texts, '\n' ∉ s.toList := by
  induction texts with
  | nil => simp
  | cons s texts ih => simp [lineBreaks_eq_zero_iff, ih]

theorem lineBreaks_join (texts : List String) : lineBreaks (.join texts) = totalBreaks texts := by
  induction texts with
  | nil => rfl
  | cons s texts ih => rw [String.join_cons, lineBreaks_append, ih, totalBreaks_cons]

theorem lineBreaks_intercalate {separator : String} (h : lineBreaks separator = 0)
    (texts : List String) :
    lineBreaks (separator.intercalate texts) = totalBreaks texts := by
  induction texts with
  | nil => rfl
  | cons s texts ih =>
    cases texts with
    | nil => simp
    | cons t texts =>
      rw [String.intercalate_cons_cons, lineBreaks_append, lineBreaks_append, h, ih,
        Nat.add_zero, totalBreaks_cons s]

/-! ## Lines -/

/-- Lines with a break behind each of them. -/
def terminated (lines : List (List UInt8)) : List UInt8 :=
  lines.flatMap (· ++ [newline])

/-- Behind the last break there is nothing. -/
theorem splitOn_terminated {lines : List (List UInt8)} (h : ∀ line ∈ lines, newline ∉ line) :
    (terminated lines).splitOn newline = lines ++ [[]] := by
  induction lines with
  | nil => rfl
  | cons line lines ih =>
    have hline : ∀ b ∈ line, (b == newline) = false := by
      intro b hb
      rw [beq_eq_false_iff_ne]
      rintro rfl
      exact h line (List.mem_cons_self ..) hb
    rw [List.splitOn, terminated, List.flatMap_cons, List.append_assoc, List.singleton_append,
      List.splitOnP_append_cons_of_forall_mem hline newline (by simp)]
    rw [List.splitOn, terminated] at ih
    rw [ih fun line hl => h line (List.mem_cons_of_mem _ hl), List.cons_append]

end StructuredLog.Text
