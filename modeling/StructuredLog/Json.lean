import StructuredLog.Value

/-!
# JSON values

The members of an object are listed in ascending order of their keys, each key once. Inserting
keeps this; the order of texts by code points is also the order of their UTF-8 bytes.
-/

namespace StructuredLog

inductive Json
  | null
  | bool (b : Bool)
  | number (n : Number)
  | str (s : String)
  | array (items : List Json)
  | object (members : List (String × Json))
  deriving Repr

namespace Json

abbrev Members := List (String × Json)

namespace Members

/-- Changes the member under a key, which may be missing before. -/
def alter (key : String) (f : Option Json → Json) : Members → Members
  | [] => [(key, f none)]
  | (k, v) :: rest =>
    if key = k then (k, f (some v)) :: rest
    else if key < k then (key, f none) :: (k, v) :: rest
    else (k, v) :: alter key f rest

/-- Sets the member under a key. -/
def insert (key : String) (value : Json) (members : Members) : Members :=
  alter key (fun _ => value) members

def get? (key : String) (members : Members) : Option Json :=
  List.lookup key members

/-! ### Order -/

/-- The keys ascend, so no key comes twice. -/
def Sorted (members : Members) : Prop :=
  members.Pairwise fun a b => a.1 < b.1

theorem mem_alter {key : String} {f : Option Json → Json} {members : Members} {m : String × Json}
    (h : m ∈ members.alter key f) : m.1 = key ∨ m ∈ members := by
  induction members with
  | nil => simp_all [alter]
  | cons n rest ih =>
    rw [alter] at h
    split at h
    · rename_i hk
      rcases List.mem_cons.mp h with rfl | h
      · exact .inl hk.symm
      · exact .inr (List.mem_cons_of_mem _ h)
    · split at h
      · rcases List.mem_cons.mp h with rfl | h
        · exact .inl rfl
        · exact .inr h
      · rcases List.mem_cons.mp h with rfl | h
        · exact .inr (List.mem_cons_self ..)
        · exact (ih h).imp_right (List.mem_cons_of_mem _)

theorem sorted_alter {members : Members} (hs : members.Sorted) (key : String)
    (f : Option Json → Json) : (members.alter key f).Sorted := by
  induction members with
  | nil => simp [alter, Sorted]
  | cons m rest ih =>
    have ⟨hm, hr⟩ := List.pairwise_cons.mp hs
    rw [alter]
    split
    · exact List.pairwise_cons.mpr ⟨hm, hr⟩
    · rename_i hk
      split
      · rename_i hlt
        refine List.pairwise_cons.mpr ⟨fun x hx => ?_, hs⟩
        rcases List.mem_cons.mp hx with rfl | hx
        · exact hlt
        · exact String.lt_trans hlt (hm x hx)
      · rename_i hle
        refine List.pairwise_cons.mpr ⟨fun x hx => ?_, ih hr⟩
        rcases mem_alter hx with he | hx
        · rw [he]
          exact Decidable.byContradiction fun h =>
            hk (String.le_antisymm (String.not_lt.mp h) (String.not_lt.mp hle))
        · exact hm x hx

/-! ### Lookup -/

theorem get?_cons (key k : String) (v : Json) (members : Members) :
    get? key ((k, v) :: members) = if key = k then some v else get? key members := by
  by_cases h : key = k
  · simp [get?, h]
  · rw [get?, List.lookup_cons, beq_false_of_ne h, if_neg h, get?]

theorem get?_eq_none_of_lt {key : String} {members : Members}
    (h : ∀ m ∈ members, key < m.1) : members.get? key = none := by
  induction members with
  | nil => rfl
  | cons m rest ih =>
    have hne : key ≠ m.1 := fun he => String.lt_irrefl _ (he ▸ h m (List.mem_cons_self ..))
    rw [get?_cons, if_neg hne]
    exact ih fun x hx => h x (List.mem_cons_of_mem _ hx)

theorem get?_alter_of_ne {key other : String} (h : other ≠ key) (f : Option Json → Json)
    (members : Members) : (members.alter key f).get? other = members.get? other := by
  induction members with
  | nil => rw [alter, get?_cons, if_neg h]
  | cons m rest ih =>
    rw [alter]
    split
    · rename_i hk
      rw [get?_cons, get?_cons, ← hk, if_neg h, if_neg h]
    · split
      · rw [get?_cons, if_neg h]
      · rw [get?_cons, get?_cons, ih]

theorem get?_alter_self {members : Members} (hs : members.Sorted) (key : String)
    (f : Option Json → Json) : (members.alter key f).get? key = some (f (members.get? key)) := by
  induction members with
  | nil => rw [alter, get?_cons, if_pos rfl]; rfl
  | cons m rest ih =>
    have ⟨hm, hr⟩ := List.pairwise_cons.mp hs
    rw [alter]
    split
    · rename_i hk
      rw [get?_cons, get?_cons, if_pos hk, if_pos hk]
    · rename_i hk
      split
      · rename_i hlt
        have hn : get? key ((m.1, m.2) :: rest) = none := by
          apply get?_eq_none_of_lt
          intro x hx
          rcases List.mem_cons.mp hx with rfl | hx
          · exact hlt
          · exact String.lt_trans hlt (hm x hx)
        rw [get?_cons, if_pos rfl, hn]
      · rw [get?_cons, get?_cons, if_neg hk, if_neg hk, ih hr]

/-! ### Lists of members -/

def ofList (entries : List (String × Json)) : Members :=
  entries.foldl (fun members (key, value) => members.insert key value) []

theorem sorted_ofList (entries : List (String × Json)) : (ofList entries).Sorted := by
  have h (members : Members) (hs : members.Sorted) :
      (entries.foldl (fun members (key, value) => members.insert key value) members).Sorted := by
    induction entries generalizing members with
    | nil => exact hs
    | cons e rest ih => exact ih _ (sorted_alter hs e.1 _)
  exact h [] List.Pairwise.nil

end Members

/-- An object with these members; of two under one key the later counts. -/
def ofEntries (entries : List (String × Json)) : Json :=
  .object (Members.ofList entries)

end Json

end StructuredLog
