import Mathlib.Data.List.Induction
import Mathlib.Data.List.Nodup
import StructuredLog.Proofs.Entry.Captured
import StructuredLog.Sink.JsonLines

/-!
# Objects of pairs and tables

The fields of pairs can be told from what is captured of them. An object from a table of members
that may be missing has those that are there, and no others.
-/

namespace StructuredLog

/-! ## Fields of captured pairs -/

/-- A captured value as JSON; floats that are not finite become null. -/
def Captured.json : Captured → Json
  | .str s => .str s
  | .number (.float x) => if x.isFinite then .number (.float x) else .null
  | .number n => .number n
  | .bool b => .bool b
  | .char c => .str (String.singleton c)
  | .display text => .str text
  | .null => .null

theorem Value.json_result (v : Value) :
    v.json.result = if v.fails then none else some v.captured.json := by
  cases v with
  | number n =>
    rw [fails_number]
    cases n <;> rfl
  | display object =>
    rw [json, Observed.bind_result, object.toText_result, fails_display]
    cases object.fails <;> rfl
  | _ => rfl

namespace Json

/-- Adds captured pairs to an object, from the first on. -/
def gather (members : Members) (pairs : List CapturedPair) : Members :=
  pairs.foldl (fun members pair => members.alter pair.name (addValue pair.value.json)) members

/-- An object with the values of captured pairs. -/
def gathered (pairs : List CapturedPair) : Members :=
  gather [] pairs

theorem collect_result (members : Members) (pairs : List Pair) :
    (collect members pairs).result =
      if pairs.any (fun pair => pair.value.fails) then none
      else some (gather members (pairs.map Pair.captured)) := by
  induction pairs generalizing members with
  | nil => rfl
  | cons pair rest ih =>
    rw [collect, Observed.bind_result, Value.json_result, List.any_cons]
    cases pair.value.fails with
    | true => rfl
    | false =>
      rw [if_neg Bool.false_ne_true, Option.bind_some, ih, Bool.false_or]
      rfl

theorem fields_result (pairs : List Pair) :
    (fields pairs).result =
      if pairs.any (fun pair => pair.value.fails) then none
      else some (gathered (pairs.map Pair.captured)) :=
  collect_result [] pairs

/-! ## Tables -/

/-- The members of a table that are there. -/
def present (table : List (String × Option Json)) : List (String × Json) :=
  table.filterMap fun (key, value) => value.map (key, ·)

theorem present_nil : present [] = [] :=
  rfl

theorem present_cons (key : String) (value : Option Json) (table : List (String × Option Json)) :
    present ((key, value) :: table) = (value.map (key, ·)).toList ++ present table := by
  cases value <;> rfl

theorem present_concat (table : List (String × Option Json)) (key : String) (value : Option Json) :
    present (table ++ [(key, value)]) = present table ++ (value.map (key, ·)).toList := by
  rw [present, List.filterMap_append]
  cases value <;> rfl

theorem Members.ofList_concat (entries : List (String × Json)) (key : String) (value : Json) :
    ofList (entries ++ [(key, value)]) = insert key value (ofList entries) :=
  List.foldl_concat ..

/-- If no key comes twice, the object has under each key what the table says. -/
theorem get?_ofList_present {table : List (String × Option Json)}
    (h : (table.map Prod.fst).Nodup) (key : String) :
    (Members.ofList (present table)).get? key = (table.lookup key).join := by
  induction table using List.reverseRecOn with
  | nil => rfl
  | append_singleton table row ih =>
    obtain ⟨k, value⟩ := row
    rw [List.map_append, List.map_singleton, ← List.concat_eq_append, List.nodup_concat] at h
    have hget := ih h.2
    rw [present_concat, List.lookup_append]
    -- The last row is inserted last, and no row before it has its key.
    by_cases hk : key = k
    · subst hk
      have hnone : table.lookup key = none := by
        rw [List.lookup_eq_none_iff]
        intro row hrow
        rw [bne_iff_ne]
        exact fun he => h.1 (List.mem_map.mpr ⟨row, hrow, he.symm⟩)
      rw [hnone] at hget
      cases value with
      | none => simpa [hnone] using hget
      | some value =>
        rw [Option.map_some, Option.toList_some, Members.ofList_concat, Members.insert,
          Members.get?_alter_self (Members.sorted_ofList _), hnone]
        simp
    · rw [List.lookup_cons, beq_false_of_ne hk, List.lookup_nil, Option.or_none, ← hget]
      cases value with
      | none => rw [Option.map_none, Option.toList_none, List.append_nil]
      | some value =>
        rw [Option.map_some, Option.toList_some, Members.ofList_concat, Members.insert,
          Members.get?_alter_of_ne hk]

end Json

end StructuredLog
