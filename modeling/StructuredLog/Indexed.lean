/-!
# Indexed sequences

An indexed sequence knows its length and answers for each index, with something exactly below the
length. A cursor visits it from the front.
-/

namespace StructuredLog

structure Indexed (α : Type) where
  count : Nat
  at? : Nat → Option α
  isSome_at?_iff : ∀ i, (at? i).isSome = true ↔ i < count

namespace Indexed

/-! ## Building -/

def ofList {α : Type} (xs : List α) : Indexed α where
  count := xs.length
  at? i := xs[i]?
  isSome_at?_iff i := by simp

/-- The same positions with `f` applied to what they hold. -/
def map {α β : Type} (f : α → β) (s : Indexed α) : Indexed β where
  count := s.count
  at? i := (s.at? i).map f
  isSome_at?_iff i := by rw [Option.isSome_map, s.isSome_at?_iff]

/-- The sequence with one more element at its end. -/
def push {α : Type} (s : Indexed α) (a : α) : Indexed α where
  count := s.count + 1
  at? i := if i = s.count then some a else s.at? i
  isSome_at?_iff i := by
    split
    · simp [*]
    · rw [s.isSome_at?_iff]
      omega

theorem at?_eq_none_iff {α : Type} (s : Indexed α) (i : Nat) : s.at? i = none ↔ s.count ≤ i := by
  rw [← Nat.not_lt, ← s.isSome_at?_iff, Option.not_isSome_iff_eq_none]

/-! ## Visiting -/

/-- A position in a sequence; everything before it has been visited. -/
structure Cursor (α : Type) where
  source : Indexed α
  position : Nat := 0

namespace Cursor

/-- The element at the cursor and the cursor behind it. At the end there is none, and the cursor
stays. -/
def next {α : Type} (c : Cursor α) : Option α × Cursor α :=
  match c.source.at? c.position with
  | some a => (some a, ⟨c.source, c.position + 1⟩)
  | none => (none, c)

/-- How many elements are left. -/
def length {α : Type} (c : Cursor α) : Nat :=
  c.source.count - c.position

/-- The elements that are left, and the cursor at the end. -/
def drain {α : Type} (c : Cursor α) : List α × Cursor α :=
  match _h : c.source.at? c.position with
  | none => ([], c)
  | some a =>
    let (rest, last) := drain ⟨c.source, c.position + 1⟩
    (a :: rest, last)
termination_by c.length
decreasing_by
  have : c.position < c.source.count := (c.source.isSome_at?_iff _).mp (by simp [_h])
  simp only [length]
  omega

theorem getElem?_drain {α : Type} (c : Cursor α) (i : Nat) :
    c.drain.1[i]? = c.source.at? (c.position + i) := by
  fun_induction drain c generalizing i with
  | case1 c h =>
    have hc : c.source.count ≤ c.position := (c.source.at?_eq_none_iff _).mp h
    rw [List.getElem?_nil, eq_comm, c.source.at?_eq_none_iff]
    omega
  | case2 c a h rest last hd ih =>
    cases i with
    | zero => simp [h]
    | succ i =>
      rw [hd] at ih
      simpa [Nat.add_assoc, Nat.add_comm 1] using ih i

end Cursor

/-- All elements in order. -/
def toList {α : Type} (s : Indexed α) : List α :=
  (Cursor.drain ⟨s, 0⟩).1

@[simp] theorem getElem?_toList {α : Type} (s : Indexed α) (i : Nat) : s.toList[i]? = s.at? i := by
  simpa [toList] using Cursor.getElem?_drain ⟨s, 0⟩ i

@[simp] theorem length_toList {α : Type} (s : Indexed α) : s.toList.length = s.count := by
  have h (i : Nat) : s.toList.length ≤ i ↔ s.count ≤ i := by
    rw [← List.getElem?_eq_none_iff, getElem?_toList, s.at?_eq_none_iff]
  exact Nat.le_antisymm ((h _).mpr (Nat.le_refl _)) ((h _).mp (Nat.le_refl _))

@[simp] theorem toList_ofList {α : Type} (xs : List α) : (ofList xs).toList = xs := by
  apply List.ext_getElem?
  intro i
  simp [ofList]

@[simp] theorem toList_map {α β : Type} (f : α → β) (s : Indexed α) :
    (s.map f).toList = s.toList.map f := by
  apply List.ext_getElem?
  intro i
  simp [map]

@[simp] theorem toList_push {α : Type} (s : Indexed α) (a : α) :
    (s.push a).toList = s.toList ++ [a] := by
  apply List.ext_getElem?
  intro i
  rw [getElem?_toList, push, List.getElem?_append]
  simp only [length_toList, getElem?_toList]
  split
  · simp [*]
  · split
    · rfl
    · rw [(s.at?_eq_none_iff i).mpr (by omega), List.getElem?_eq_none (by simp; omega)]

/-- The first element with the property, among all positions below the length. -/
def find? {α : Type} (p : α → Bool) (s : Indexed α) : Option α :=
  ((List.range s.count).filterMap s.at?).find? p

theorem filterMap_at?_range {α : Type} (s : Indexed α) (n : Nat) :
    (List.range n).filterMap s.at? = s.toList.take n := by
  induction n with
  | zero => rfl
  | succ n ih =>
    rw [List.range_succ, List.filterMap_append, ih, List.take_add_one, getElem?_toList]
    cases h : s.at? n <;> simp [h]

theorem find?_eq_find?_toList {α : Type} (p : α → Bool) (s : Indexed α) :
    s.find? p = s.toList.find? p := by
  rw [find?, filterMap_at?_range, ← s.length_toList, List.take_length]

end Indexed

end StructuredLog
