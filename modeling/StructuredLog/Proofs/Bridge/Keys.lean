import StructuredLog.Bridge
import StructuredLog.Proofs.Message.Lookup

/-!
# Keys of a record

A visitor is handed the arguments of a call under their names, then the template, the event's number
and the error under keys of their own. These keys are not reserved: an argument may have the key of
the event's number or of the error, and is then handed over before it.
-/

namespace StructuredLog

/-! ## What a visitor is handed -/

namespace Entry

/-- The keys and values of an entry, in the order in which a visitor is handed them. -/
def keyed (e : Entry) : List (String × KeyedValue) :=
  e.state.pairs.map (fun pair => (pair.name, pair.value.keyed)) ++
    ("event_id", .number (.int e.event.id.toInt64)) ::
      (e.error.map fun error => ("error", KeyedValue.any error)).toList

theorem visit_eq_forM {μ : Type → Type} [Monad μ] [LawfulMonad μ] (e : Entry)
    (visitor : String → KeyedValue → μ Unit) :
    e.visit visitor = e.keyed.forM fun keyed => visitor keyed.1 keyed.2 := by
  rw [visit, keyed]
  cases e.error <;> simp

/-- What a visitor keeps that takes everything. -/
def visited (e : Entry) : List (String × KeyedValue) :=
  ((e.visit fun key value => modify (· ++ [(key, value)]) :
    StateM (List (String × KeyedValue)) Unit).run []).2

theorem run_forM_modify {α : Type} (kept xs : List α) :
    (xs.forM (fun x => modify (· ++ [x])) : StateM (List α) Unit).run kept =
      ((), kept ++ xs) := by
  induction xs generalizing kept with
  | nil => rw [List.append_nil]; rfl
  | cons x xs ih =>
    rw [List.append_cons, ← ih (kept ++ [x])]
    rfl

theorem visited_eq (e : Entry) : e.visited = e.keyed := by
  rw [visited, visit_eq_forM, run_forM_modify, List.nil_append]

/-- What is found under a key, in the order in which it was handed over. -/
def found (key : String) (e : Entry) : List KeyedValue :=
  (e.visited.filter fun keyed => keyed.1 = key).map Prod.snd

end Entry

/-! ## The keys of a call -/

namespace View

/-- Under distinct names there is at most one pair of a name. -/
theorem filter_name_eq_toList_find? {pairs : List Pair} (h : (pairs.map Pair.name).Nodup)
    (name : String) : pairs.filter (fun pair => pair.name = name) =
      (pairs.find? fun pair => pair.name == name).toList := by
  induction pairs with
  | nil => rfl
  | cons pair pairs ih =>
    rw [List.map_cons, List.nodup_cons] at h
    by_cases hname : pair.name = name
    · have hrest : pairs.filter (fun pair => pair.name = name) = [] := by
        rw [ih h.2, find?_eq_none_of_not_mem pairs name (hname ▸ h.1)]
        rfl
      simp [hname, hrest]
    · simp [hname, ih h.2]

end View

namespace Message

variable {arity : Nat} {m : Message arity}

theorem map_fst_visited_entry (m : Message arity) (args : Vector Value arity)
    (error : Option Displayed) :
    (m.entry args error).visited.map Prod.fst =
      m.names.toList ++ originalFormat :: "event_id" :: (error.map fun _ => "error").toList := by
  have hnames : (m.state args).pairs.map Pair.name = m.names.toList ++ [originalFormat] := by
    rw [pairs_state, List.map_append, map_name_argumentPairs]
    rfl
  have hkeyed : (m.entry args error).visited.map Prod.fst =
      (m.state args).pairs.map Pair.name ++
        "event_id" :: (error.map fun _ => "error").toList := by
    rw [Entry.visited_eq, Entry.keyed, List.map_append, List.map_map]
    cases error <;> rfl
  rw [hkeyed, hnames, List.append_assoc]
  rfl

theorem found_entry {args : Vector Value arity} (error : Option Displayed)
    (h : ((m.state args).pairs.map Pair.name).Nodup) (key : String) :
    (m.entry args error).found key =
      (((m.state args).get? key).map Value.keyed).toList ++
        ((if key = "event_id" then [.number (.int m.event.id.toInt64)] else []) ++
          if key = "error" then (error.map KeyedValue.any).toList else []) := by
  have hpairs : (((m.state args).pairs.map fun pair => (pair.name, pair.value.keyed)).filter
      fun keyed => keyed.1 = key).map Prod.snd =
        (((m.state args).get? key).map Value.keyed).toList := by
    have hfilter := View.filter_name_eq_toList_find? h key
    rw [List.filter_map, List.map_map, View.get?_eq_find?, Option.map_map, Option.toList_map,
      ← hfilter]
    rfl
  rw [Entry.found, Entry.visited_eq, Entry.keyed, List.filter_append, List.map_append]
  congr 1
  by_cases hid : key = "event_id"
  · subst hid
    cases error <;> simp [entry]
  · by_cases herror : key = "error"
    · subst herror
      cases error <;> simp [entry]
    · cases error <;> simp [entry, hid, herror, eq_comm]

theorem nodup_fixed_keys (error : Option Displayed) :
    (originalFormat :: "event_id" :: (error.map fun _ => "error").toList).Nodup := by
  cases error with
  | none =>
    show [originalFormat, "event_id"].Nodup
    decide
  | some error =>
    show [originalFormat, "event_id", "error"].Nodup
    decide

theorem nodup_map_fst_visited_iff (hnodup : m.names.toList.Nodup)
    (hformat : originalFormat ∉ m.names.toList) (args : Vector Value arity)
    (error : Option Displayed) :
    ((m.entry args error).visited.map Prod.fst).Nodup ↔
      "event_id" ∉ m.names.toList ∧ (error.isSome = true → "error" ∉ m.names.toList) := by
  have hdisjoint : ((m.entry args error).visited.map Prod.fst).Nodup ↔
      ∀ key ∈ originalFormat :: "event_id" :: (error.map fun _ => "error").toList,
        key ∉ m.names.toList := by
    rw [map_fst_visited_entry, List.nodup_append]
    constructor
    · rintro ⟨-, -, hne⟩ key hkey hname
      exact hne key hname key hkey rfl
    · intro hfixed
      refine ⟨hnodup, nodup_fixed_keys error, ?_⟩
      rintro name hname key hkey rfl
      exact hfixed name hkey hname
  have hformat' : originalFormat ∉ m.names := by simpa using hformat
  rw [hdisjoint]
  cases error <;> simp [hformat']

/-- The keys of a call, if no unformatted name is that of the template, are the names of its
arguments and three fixed keys behind them. They are distinct exactly if no argument has the key of
the event's number, nor that of an error that is given. Each argument is found by its name, and
alone unless it has one of these two keys; the event's number and the error are found behind the
argument of the same key, if there is one. -/
theorem visited_keys_distinct_iff {level : Level} {event : EventId} {template : String}
    {unformatted : List String} (h : define arity level event template unformatted = .ok m)
    (hformat : originalFormat ∉ unformatted) (args : Vector Value arity)
    (error : Option Displayed) :
    let e := m.entry args error
    e.visited.map Prod.fst =
      m.names.toList ++ originalFormat :: "event_id" :: (error.map fun _ => "error").toList ∧
    ((e.visited.map Prod.fst).Nodup ↔
      "event_id" ∉ m.names.toList ∧ (error.isSome = true → "error" ∉ m.names.toList)) ∧
    (∀ i (hi : i < arity), m.names[i] ≠ "event_id" →
      (error.isSome = true → m.names[i] ≠ "error") → e.found m.names[i] = [args[i].keyed]) ∧
    e.found originalFormat = [.str template] ∧
    e.found "event_id" = (((m.state args).get? "event_id").map Value.keyed).toList ++
      [.number (.int event.id.toInt64)] ∧
    ∀ object, error = some object →
      e.found "error" = (((m.state args).get? "error").map Value.keyed).toList ++
        [.any object] := by
  intro e
  have hd := defined_of_define level event h
  rw [← hd.originalFormat_mem_names_iff] at hformat
  have hstate := (m.nodup_names_state_iff args hd.names_nodup).mpr hformat
  have hfound (key : String) : e.found key = _ := found_entry error hstate key
  refine ⟨m.map_fst_visited_entry args error,
    nodup_map_fst_visited_iff hd.names_nodup hformat args error, ?_, ?_, ?_, ?_⟩
  · intro i hi hid herror
    rw [hfound, m.get?_state_of_lt args hd.names_nodup hi, if_neg hid]
    split
    · rename_i he
      cases error with
      | none => rfl
      | some object => exact absurd he (herror rfl)
    · rfl
  · rw [hfound, m.get?_originalFormat_state args hformat,
      Template.original_of_compile hd.compile_eq, if_neg (by decide), if_neg (by decide)]
    rfl
  · rw [hfound, if_pos rfl, if_neg (by decide), List.append_nil, hd.event_eq]
  · rintro object rfl
    rw [hfound, if_neg (by decide), if_pos rfl]
    rfl

/-- An argument may be called as an error would be, as long as none is given. -/
theorem visited_keys_distinct_without_error :
    ∃ m, define 2 .info ⟨7, none⟩ "\x7buser\x7d" ["error"] = .ok m ∧
      originalFormat ∉ ["error"] ∧
      ((m.entry #v[.str "alice", .bool true] none).visited.map Prod.fst).Nodup ∧
      (m.entry #v[.str "alice", .bool true] none).found "error" = [.bool true] := by
  have h : define 2 .info ⟨7, none⟩ "\x7buser\x7d" ["error"] =
      .ok ⟨.info, ⟨7, none⟩, ⟨"\x7buser\x7d", [.slot 0], ["user"]⟩, #v["user", "error"]⟩ := rfl
  have hformat : originalFormat ∉ ["error"] := by decide
  obtain ⟨-, hnodup, hargument, -⟩ :=
    visited_keys_distinct_iff h hformat #v[.str "alice", .bool true] none
  refine ⟨_, h, hformat, hnodup.mpr ⟨by decide, nofun⟩, ?_⟩
  exact hargument 1 (by decide) (by decide) nofun

/-- Arguments with the keys of the event's number and of the error share these keys. -/
theorem visited_keys_repeat :
    ∃ m, define 2 .info ⟨7, none⟩ "\x7bevent_id\x7d: \x7berror\x7d" [] = .ok m ∧
      (m.entry #v[.str "alice", .str "late"] (some ⟨["disk"], false⟩)).visited.map Prod.fst =
        ["event_id", "error", originalFormat, "event_id", "error"] ∧
      ¬((m.entry #v[.str "alice", .str "late"]
        (some ⟨["disk"], false⟩)).visited.map Prod.fst).Nodup := by
  refine ⟨⟨.info, ⟨7, none⟩, ⟨"\x7bevent_id\x7d: \x7berror\x7d",
    [.slot 0, .literal 10 ": ", .slot 1], ["event_id", "error"]⟩, #v["event_id", "error"]⟩,
    rfl, ?_, ?_⟩
  · rw [map_fst_visited_entry]
    rfl
  · rw [map_fst_visited_entry]
    decide

end Message

end StructuredLog
