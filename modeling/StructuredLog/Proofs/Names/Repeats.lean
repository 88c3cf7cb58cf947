import StructuredLog.Names
import Mathlib.Data.List.Nodup

/-!
# Repeated names

Combining names gives their concatenation, unless a name of it repeats an earlier one; then it gives
the first name that does.
-/

namespace StructuredLog.Names

/-- Is the name at this position equal to an earlier one? -/
def RepeatsAt (names : List String) (i : Nat) : Prop :=
  ∃ name, names[i]? = some name ∧ name ∈ names.take i

theorem not_repeatsAt_of_nodup {names : List String} (h : names.Nodup) (i : Nat) :
    ¬RepeatsAt names i := by
  rintro ⟨name, hi, hmem⟩
  obtain ⟨hlt, rfl⟩ := List.getElem?_eq_some_iff.mp hi
  obtain ⟨j, hj, he⟩ := List.mem_take_iff_getElem.mp hmem
  have hij : j = i := (List.Nodup.getElem_inj_iff h).mp he
  omega

theorem repeatsAt_append_of_lt {before after : List String} {i : Nat} (h : i < before.length) :
    RepeatsAt (before ++ after) i ↔ RepeatsAt before i := by
  rw [RepeatsAt, RepeatsAt, List.getElem?_append_left h,
    List.take_append_of_le_length (Nat.le_of_lt h)]

/-- The first repeated name stands behind names that neither repeat nor were seen. -/
theorem split_of_firstRepeat {seen names : List String} {name : String}
    (h : firstRepeat seen names = some name) :
    ∃ before after, names = before ++ name :: after ∧ firstRepeat seen before = none ∧
      (name ∈ seen ∨ name ∈ before) := by
  induction names generalizing seen with
  | nil => simp [firstRepeat] at h
  | cons x rest ih =>
    by_cases hx : x ∈ seen
    · obtain rfl : x = name := by simpa [firstRepeat, hx] using h
      exact ⟨[], rest, rfl, rfl, .inl hx⟩
    · rw [firstRepeat, if_neg hx] at h
      obtain ⟨before, after, rfl, hbefore, hmem⟩ := ih h
      refine ⟨x :: before, after, rfl, ?_, ?_⟩
      · rw [firstRepeat, if_neg hx, hbefore]
      · rcases hmem with hmem | hmem
        · rcases List.mem_cons.mp hmem with rfl | hmem
          · exact .inr (List.mem_cons_self ..)
          · exact .inl hmem
        · exact .inr (List.mem_cons_of_mem _ hmem)

theorem position_of_firstRepeat {names : List String} {name : String}
    (h : firstRepeat [] names = some name) :
    ∃ i, names[i]? = some name ∧ RepeatsAt names i ∧ ∀ j < i, ¬RepeatsAt names j := by
  obtain ⟨before, after, rfl, hbefore, hmem⟩ := split_of_firstRepeat h
  have hnodup : before.Nodup := ((firstRepeat_eq_none_iff [] before).mp hbefore).1
  have hget : (before ++ name :: after)[before.length]? = some name := by simp
  refine ⟨before.length, hget, ⟨name, hget, ?_⟩, ?_⟩
  · simpa using hmem
  · intro j hj
    rw [repeatsAt_append_of_lt hj]
    exact not_repeatsAt_of_nodup hnodup j

theorem firstRepeat_eq_none_iff_forall {names : List String} :
    firstRepeat [] names = none ↔ ∀ i, ¬RepeatsAt names i := by
  constructor
  · intro h
    exact not_repeatsAt_of_nodup ((firstRepeat_eq_none_iff [] names).mp h).1
  · intro h
    cases hf : firstRepeat [] names with
    | none => rfl
    | some name =>
      obtain ⟨i, -, hi, -⟩ := position_of_firstRepeat hf
      exact absurd hi (h i)

/-- Of two positions that both repeat, only one can be the first. -/
theorem firstRepeat_eq_some_iff {names : List String} {name : String} :
    firstRepeat [] names = some name ↔
      ∃ i, names[i]? = some name ∧ RepeatsAt names i ∧ ∀ j < i, ¬RepeatsAt names j := by
  refine ⟨position_of_firstRepeat, ?_⟩
  rintro ⟨i, hget, hi, hfirst⟩
  cases hf : firstRepeat [] names with
  | none => exact absurd hi (firstRepeat_eq_none_iff_forall.mp hf i)
  | some other =>
    obtain ⟨j, hgetj, hj, hfirstj⟩ := position_of_firstRepeat hf
    have hij : i = j := by
      rcases Nat.lt_trichotomy i j with hlt | heq | hgt
      · exact absurd hi (hfirstj i hlt)
      · exact heq
      · exact absurd hj (hfirst j hgt)
    rw [← hget, hij, hgetj]

/-! ## Combined names -/

theorem combine_eq_ok_iff {formatted unformatted names : List String} :
    combine formatted unformatted = .ok names ↔
      (formatted ++ unformatted).Nodup ∧ names = formatted ++ unformatted := by
  have hnodup : firstRepeat [] (formatted ++ unformatted) = none ↔
      (formatted ++ unformatted).Nodup := by
    simpa using firstRepeat_eq_none_iff [] (formatted ++ unformatted)
  rw [← hnodup, combine]
  cases firstRepeat [] (formatted ++ unformatted) with
  | none => simp [eq_comm]
  | some name => simp

theorem combine_eq_error_iff {formatted unformatted : List String} {name : String} :
    combine formatted unformatted = .error name ↔
      firstRepeat [] (formatted ++ unformatted) = some name := by
  rw [combine]
  cases firstRepeat [] (formatted ++ unformatted) with
  | none => simp
  | some other => simp

theorem combine_of_forall_not_repeatsAt {formatted unformatted : List String}
    (h : ∀ i, ¬RepeatsAt (formatted ++ unformatted) i) :
    combine formatted unformatted = .ok (formatted ++ unformatted) := by
  rw [combine, firstRepeat_eq_none_iff_forall.mpr h]

theorem combine_of_repeatsAt {formatted unformatted : List String}
    (h : ∃ i, RepeatsAt (formatted ++ unformatted) i) :
    ∃ i name, (formatted ++ unformatted)[i]? = some name ∧
      RepeatsAt (formatted ++ unformatted) i ∧
      (∀ j < i, ¬RepeatsAt (formatted ++ unformatted) j) ∧
      combine formatted unformatted = .error name := by
  cases hf : firstRepeat [] (formatted ++ unformatted) with
  | none =>
    obtain ⟨i, hi⟩ := h
    exact absurd hi (firstRepeat_eq_none_iff_forall.mp hf i)
  | some name =>
    obtain ⟨i, hget, hi, hfirst⟩ := position_of_firstRepeat hf
    exact ⟨i, name, hget, hi, hfirst, combine_eq_error_iff.mpr hf⟩

/-- Distinct names are combined to their concatenation. Of other names the first that repeats an
earlier one is reported; if the formatted names alone have one, it is reported whatever names are
behind them. -/
theorem combine_concatenates_or_reports (formatted unformatted : List String) :
    (∀ names, combine formatted unformatted = .ok names ↔
      (formatted ++ unformatted).Nodup ∧ names = formatted ++ unformatted) ∧
    (∀ name, combine formatted unformatted = .error name ↔
      ∃ i, (formatted ++ unformatted)[i]? = some name ∧ RepeatsAt (formatted ++ unformatted) i ∧
        ∀ j < i, ¬RepeatsAt (formatted ++ unformatted) j) ∧
    ∀ i name, formatted[i]? = some name → RepeatsAt formatted i →
      (∀ j < i, ¬RepeatsAt formatted j) → combine formatted unformatted = .error name := by
  refine ⟨fun names => combine_eq_ok_iff, fun name => ?_, ?_⟩
  · rw [combine_eq_error_iff, firstRepeat_eq_some_iff]
  · intro i name hget hi hfirst
    obtain ⟨hlt, -⟩ := List.getElem?_eq_some_iff.mp hget
    rw [combine_eq_error_iff, firstRepeat_eq_some_iff]
    refine ⟨i, ?_, (repeatsAt_append_of_lt hlt).mpr hi, ?_⟩
    · rw [List.getElem?_append_left hlt, hget]
    · intro j hj
      rw [repeatsAt_append_of_lt (Nat.lt_trans hj hlt)]
      exact hfirst j hj

example : combine ["x", "y"] ["y", "x"] = .error "y" := by decide

end StructuredLog.Names
