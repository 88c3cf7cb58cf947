import StructuredLog.View

/-!
# Visiting views

A cursor yields the pairs of a view in order and nothing from then on. The number of pairs that are
left, the values without their names, and what is found under a name all agree with what it yields.
-/

namespace StructuredLog

namespace Indexed

variable {α : Type}

/-! ## Calls of a cursor -/

namespace Cursor

/-- The cursor after so many calls. -/
def after (c : Cursor α) : Nat → Cursor α
  | 0 => c
  | k + 1 => (c.after k).next.2

/-- What the call behind `k` other calls yields. -/
def yielded? (c : Cursor α) (k : Nat) : Option α :=
  (c.after k).next.1

/-- A call moves the cursor on unless it is at the end. -/
theorem next_mk (s : Indexed α) (i : Nat) :
    next ⟨s, i⟩ = (s.at? i, ⟨s, if i < s.count then i + 1 else i⟩) := by
  by_cases hi : i < s.count
  · obtain ⟨a, ha⟩ := Option.isSome_iff_exists.mp ((s.isSome_at?_iff i).mpr hi)
    simp [next, ha, hi]
  · have hnone : s.at? i = none := (s.at?_eq_none_iff i).mpr (by omega)
    simp [next, hnone, hi]

end Cursor

/-- The cursor in front of the first element. -/
def cursor (s : Indexed α) : Cursor α :=
  ⟨s, 0⟩

variable (s : Indexed α)

/-- However many calls are made, the cursor passes every element once and stays at the end. -/
theorem after_cursor (k : Nat) : s.cursor.after k = ⟨s, min k s.count⟩ := by
  induction k with
  | zero => simp [Cursor.after, cursor]
  | succ k ih =>
    have hposition : (if min k s.count < s.count then min k s.count + 1 else min k s.count) =
        min (k + 1) s.count := by
      split <;> omega
    rw [Cursor.after, ih, Cursor.next_mk, hposition]

theorem yielded?_cursor (k : Nat) : s.cursor.yielded? k = s.at? k := by
  rw [Cursor.yielded?, after_cursor, Cursor.next_mk]
  by_cases hk : k < s.count
  · rw [Nat.min_eq_left (Nat.le_of_lt hk)]
  · have hk' : s.count ≤ k := by omega
    rw [Nat.min_eq_right hk', (s.at?_eq_none_iff _).mpr (Nat.le_refl _),
      (s.at?_eq_none_iff _).mpr hk']

theorem length_after_cursor (k : Nat) : (s.cursor.after k).length = s.count - k := by
  rw [after_cursor, Cursor.length]
  show s.count - min k s.count = s.count - k
  omega

/-! ## What is found -/

variable {s} {p : α → Bool}

theorem find?_eq_some_iff {a : α} : s.find? p = some a ↔
    ∃ k, s.at? k = some a ∧ p a = true ∧ ∀ j < k, ∀ b, s.at? j = some b → p b = false := by
  simp only [find?_eq_find?_toList, List.find?_eq_some_iff_getElem, ← getElem?_toList]
  constructor
  · rintro ⟨ha, k, hk, rfl, hbefore⟩
    refine ⟨k, List.getElem?_eq_getElem hk, ha, ?_⟩
    intro j hj b hb
    obtain ⟨hj', rfl⟩ := List.getElem?_eq_some_iff.mp hb
    simpa using hbefore j hj
  · rintro ⟨k, hk, ha, hbefore⟩
    obtain ⟨hk, he⟩ := List.getElem?_eq_some_iff.mp hk
    refine ⟨ha, k, hk, he, ?_⟩
    intro j hj
    simpa using hbefore j hj _ (List.getElem?_eq_getElem (by omega))

theorem find?_eq_none_iff : s.find? p = none ↔ ∀ k a, s.at? k = some a → p a = false := by
  simp only [find?_eq_find?_toList, List.find?_eq_none, ← getElem?_toList]
  constructor
  · intro h k a hk
    simpa using h a (List.mem_of_getElem? hk)
  · intro h a ha
    obtain ⟨k, hk⟩ := List.getElem?_of_mem ha
    simpa using h k a hk

end Indexed

/-! ## Views -/

namespace View

variable (v : View)

/-- Everything that a view tells agrees with what a cursor yields. -/
structure AgreesWithCursor : Prop where
  /-- As long as there are pairs, each call yields the one at its own position. -/
  yielded?_of_lt : ∀ k < v.count, ∃ pair, v.at? k = some pair ∧ v.cursor.yielded? k = some pair
  /-- From then on no call yields anything. -/
  yielded?_of_le : ∀ k, v.count ≤ k → v.cursor.yielded? k = none
  length_after : ∀ k, (v.cursor.after k).length = v.count - k
  getElem?_pairs : ∀ k, v.pairs[k]? = v.cursor.yielded? k
  count_values : v.values.count = v.count
  at?_values : ∀ i, v.values.at? i = (v.at? i).map Pair.value
  /-- A name finds the first pair of its own that is yielded. -/
  get?_eq_some_iff : ∀ name value, v.get? name = some value ↔
    ∃ k, v.cursor.yielded? k = some ⟨name, value⟩ ∧
      ∀ j < k, ∀ pair, v.cursor.yielded? j = some pair → pair.name ≠ name
  get?_eq_none_iff : ∀ name, v.get? name = none ↔
    ∀ k pair, v.cursor.yielded? k = some pair → pair.name ≠ name

/-- Every view agrees with its cursor, be it made of a list, of a call or of a scope. -/
theorem agreesWithCursor : v.AgreesWithCursor := by
  have hyielded (k : Nat) : v.cursor.yielded? k = v.at? k := v.yielded?_cursor k
  refine ⟨?_, ?_, v.length_after_cursor, ?_, rfl, fun i => rfl, ?_, ?_⟩
  · intro k hk
    obtain ⟨pair, hpair⟩ := Option.isSome_iff_exists.mp ((v.isSome_at?_iff k).mpr hk)
    exact ⟨pair, hpair, by rw [hyielded, hpair]⟩
  · intro k hk
    rw [hyielded, v.at?_eq_none_iff]
    exact hk
  · intro k
    rw [hyielded, getElem?_pairs]
  · intro name value
    simp only [hyielded, get?, Option.map_eq_some_iff, Indexed.find?_eq_some_iff]
    constructor
    · rintro ⟨⟨name', value'⟩, ⟨k, hk, hname, hbefore⟩, rfl⟩
      obtain rfl : name' = name := by simpa using hname
      exact ⟨k, hk, by simpa using hbefore⟩
    · rintro ⟨k, hk, hbefore⟩
      exact ⟨⟨name, value⟩, ⟨k, hk, by simp, by simpa using hbefore⟩, rfl⟩
  · intro name
    simp [hyielded, get?, Option.map_eq_none_iff, Indexed.find?_eq_none_iff]

end View

end StructuredLog
