/-! # Lists of distinct names -/

namespace StructuredLog.Names

/-- The first name that stands after one equal to it, given the names `seen` before the list. -/
def firstRepeat (seen : List String) : List String → Option String
  | [] => none
  | name :: rest => if name ∈ seen then some name else firstRepeat (name :: seen) rest

theorem firstRepeat_eq_none_iff (seen names : List String) :
    firstRepeat seen names = none ↔ names.Nodup ∧ ∀ name ∈ names, name ∉ seen := by
  induction names generalizing seen with
  | nil => simp [firstRepeat]
  | cons name rest ih =>
    by_cases h : name ∈ seen
    · simp [firstRepeat, h]
    · rw [firstRepeat, if_neg h, ih, List.nodup_cons]
      constructor
      · rintro ⟨hr, hs⟩
        have hn : name ∉ rest := fun hm => hs name hm (List.mem_cons_self ..)
        refine ⟨⟨hn, hr⟩, ?_⟩
        intro x hx
        rcases List.mem_cons.mp hx with rfl | hx
        · exact h
        · exact fun hm => hs x hx (List.mem_cons_of_mem _ hm)
      · rintro ⟨⟨hn, hr⟩, hs⟩
        refine ⟨hr, ?_⟩
        intro x hx hm
        rcases List.mem_cons.mp hm with rfl | hm
        · exact hn hx
        · exact hs x (List.mem_cons_of_mem _ hx) hm

/-- The slots' names before the other names, or the first name that comes twice. -/
def combine (formatted unformatted : List String) : Except String (List String) :=
  match firstRepeat [] (formatted ++ unformatted) with
  | none => .ok (formatted ++ unformatted)
  | some name => .error name

theorem eq_append_of_combine {formatted unformatted names : List String}
    (h : combine formatted unformatted = .ok names) : names = formatted ++ unformatted := by
  unfold combine at h
  split at h
  · exact (Except.ok.inj h).symm
  · cases h

end StructuredLog.Names
