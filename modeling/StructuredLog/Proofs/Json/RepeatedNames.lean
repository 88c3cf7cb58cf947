import StructuredLog.Proofs.Json.Fields

/-!
# Repeated names

The fields of pairs hold every value: a name that comes once has its value, which is never an array,
and a name that comes more often has an array of its values in order. So the values of a name can be
read back.
-/

namespace StructuredLog.Json

/-! ## What a name has -/

def isArray : Json → Bool
  | .array _ => true
  | _ => false

/-- What is kept for values in order: a single value as it is, several in an array. -/
def kept : List Json → Option Json
  | [] => none
  | [value] => some value
  | values => some (.array values)

/-- The values that are read back from what is kept. -/
def listed : Option Json → List Json
  | none => []
  | some (.array values) => values
  | some value => [value]

theorem kept_concat {values : List Json} (h : ∀ value ∈ values, value.isArray = false)
    (value : Json) : kept (values ++ [value]) = some (addValue value (kept values)) := by
  match values with
  | [] => rfl
  | [first] =>
    have hfirst : first.isArray = false := h first (List.mem_cons_self ..)
    cases first with
    | array items => cases hfirst
    | _ => rfl
  | first :: second :: rest => rfl

theorem listed_kept {values : List Json} (h : ∀ value ∈ values, value.isArray = false) :
    listed (kept values) = values := by
  match values with
  | [] => rfl
  | [value] =>
    have hvalue : value.isArray = false := h value (List.mem_cons_self ..)
    cases value with
    | array items => cases hvalue
    | _ => rfl
  | first :: second :: rest => rfl

theorem kept_of_two_le {values : List Json} (h : 2 ≤ values.length) :
    kept values = some (.array values) := by
  match values with
  | first :: second :: rest => rfl

theorem kept_eq_none_iff {values : List Json} : kept values = none ↔ values = [] := by
  unfold kept
  split <;> simp_all

/-! ## Captured pairs -/

theorem isArray_json (c : Captured) : c.json.isArray = false := by
  cases c with
  | number n =>
    cases n with
    | float x =>
      rw [Captured.json]
      split <;> rfl
    | _ => rfl
  | _ => rfl

/-- The values of all pairs of a name, in order. -/
def valuesOf (name : String) (pairs : List CapturedPair) : List Json :=
  (pairs.filter fun pair => pair.name = name).map fun pair => pair.value.json

theorem valuesOf_concat_self (pairs : List CapturedPair) (pair : CapturedPair) :
    valuesOf pair.name (pairs ++ [pair]) = valuesOf pair.name pairs ++ [pair.value.json] := by
  simp [valuesOf]

theorem valuesOf_concat_of_ne {name : String} {pair : CapturedPair} (h : name ≠ pair.name)
    (pairs : List CapturedPair) : valuesOf name (pairs ++ [pair]) = valuesOf name pairs := by
  simp [valuesOf, h.symm]

theorem isArray_of_mem_valuesOf {name : String} {pairs : List CapturedPair} {value : Json}
    (h : value ∈ valuesOf name pairs) : value.isArray = false := by
  obtain ⟨pair, -, rfl⟩ := List.mem_map.mp h
  exact isArray_json pair.value

theorem valuesOf_eq_nil_iff {name : String} {pairs : List CapturedPair} :
    valuesOf name pairs = [] ↔ name ∉ pairs.map CapturedPair.name := by
  simp [valuesOf, List.filter_eq_nil_iff]

theorem gathered_concat (pairs : List CapturedPair) (pair : CapturedPair) :
    gathered (pairs ++ [pair]) =
      (gathered pairs).alter pair.name (addValue pair.value.json) := by
  rw [gathered, gathered, gather, gather, List.foldl_append]
  rfl

theorem sorted_gathered (pairs : List CapturedPair) : (gathered pairs).Sorted := by
  induction pairs using List.reverseRecOn with
  | nil => exact List.Pairwise.nil
  | append_singleton pairs pair ih =>
    rw [gathered_concat]
    exact Members.sorted_alter ih pair.name _

/-- Each name has what is kept for its values. -/
theorem get?_gathered (pairs : List CapturedPair) (name : String) :
    (gathered pairs).get? name = kept (valuesOf name pairs) := by
  induction pairs using List.reverseRecOn with
  | nil => rfl
  | append_singleton pairs pair ih =>
    rw [gathered_concat]
    -- The last pair is added behind the values that its name already has.
    by_cases hname : name = pair.name
    · subst hname
      rw [Members.get?_alter_self (sorted_gathered pairs), ih, valuesOf_concat_self,
        kept_concat fun value => isArray_of_mem_valuesOf]
    · rw [Members.get?_alter_of_ne hname, ih, valuesOf_concat_of_ne hname]

/-! ## Fields -/

theorem Members.get?_eq_none_iff {members : Members} {key : String} :
    members.get? key = none ↔ key ∉ members.map Prod.fst := by
  induction members with
  | nil => simp [get?]
  | cons m members ih =>
    rw [get?_cons, List.map_cons, List.mem_cons, not_or, ← ih]
    by_cases h : key = m.1 <;> simp [h]

theorem map_name_captured (pairs : List Pair) :
    (pairs.map Pair.captured).map CapturedPair.name = pairs.map Pair.name := by
  rw [List.map_map]
  rfl

/-- Pairs that do not fail are converted one by one. -/
theorem map_json_result {pairs : List Pair} (h : ∀ pair ∈ pairs, pair.value.fails = false)
    (name : String) :
    (pairs.filter fun pair => pair.name = name).map (fun pair => pair.value.json.result) =
      (valuesOf name (pairs.map Pair.captured)).map some := by
  rw [valuesOf, List.filter_map, List.map_map, List.map_map]
  apply List.map_congr_left
  intro pair hpair
  rw [Value.json_result, h pair (List.mem_of_mem_filter hpair)]
  rfl

/-- Pairs that can be displayed make an object with exactly their names as keys. Behind each name
stand the values of all its pairs, as the values that they are converted to: alone if there is one,
which is never an array, and in order in an array if there are more. So they can be read back. -/
theorem fields_hold_every_value {pairs : List Pair}
    (h : ∀ pair ∈ pairs, pair.value.fails = false) :
    ∃ members, (fields pairs).result = some members ∧ members.Sorted ∧
      (∀ name, name ∈ members.map Prod.fst ↔ name ∈ pairs.map Pair.name) ∧
      ∀ name, ∃ values,
        (pairs.filter fun pair => pair.name = name).map (fun pair => pair.value.json.result) =
          values.map some ∧
        (∀ value ∈ values, value.isArray = false) ∧
        (∀ value, values = [value] → members.get? name = some value) ∧
        (2 ≤ values.length → members.get? name = some (.array values)) ∧
        listed (members.get? name) = values := by
  have hnone : pairs.any (fun pair => pair.value.fails) = false := by
    simpa [List.any_eq_false] using h
  refine ⟨gathered (pairs.map Pair.captured), ?_, sorted_gathered _, ?_, ?_⟩
  · rw [fields_result, hnone]
    rfl
  · intro name
    rw [← map_name_captured, ← not_iff_not, ← Members.get?_eq_none_iff, get?_gathered,
      kept_eq_none_iff, valuesOf_eq_nil_iff]
  · intro name
    have hvalues : ∀ value ∈ valuesOf name (pairs.map Pair.captured), value.isArray = false :=
      fun value => isArray_of_mem_valuesOf
    refine ⟨valuesOf name (pairs.map Pair.captured), map_json_result h name, hvalues, ?_, ?_, ?_⟩
    · intro value hvalue
      rw [get?_gathered, hvalue]
      rfl
    · intro hlength
      rw [get?_gathered, kept_of_two_le hlength]
    · rw [get?_gathered, listed_kept hvalues]

/-- Three values of a name, another one between them and a null at the end. -/
theorem fields_hold_every_value_tags :
    let pairs : List Pair := [⟨"tag", .str "a"⟩, ⟨"n", .bool true⟩,
      ⟨"tag", .display ⟨["b", "c"], false⟩⟩, ⟨"tag", .null⟩]
    (∀ pair ∈ pairs, pair.value.fails = false) ∧
      ∃ members, (fields pairs).result = some members ∧
        members.get? "tag" = some (.array [.str "a", .str "bc", .null]) := by
  intro pairs
  have h : ∀ pair ∈ pairs, pair.value.fails = false := by decide
  have hpairs : (pairs.filter fun pair => pair.name = "tag").map
      (fun pair => pair.value.json.result) = [.str "a", .str "bc", .null].map some := rfl
  obtain ⟨members, hresult, -, -, hnames⟩ := fields_hold_every_value h
  obtain ⟨values, hvalues, -, -, harray, -⟩ := hnames "tag"
  obtain rfl : values = [.str "a", .str "bc", .null] :=
    List.map_injective_iff.mpr (fun _ _ => Option.some.inj) (hvalues.symm.trans hpairs)
  exact ⟨h, members, hresult, harray (by decide)⟩

end StructuredLog.Json
