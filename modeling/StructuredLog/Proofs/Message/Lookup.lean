import StructuredLog.Entry
import StructuredLog.Proofs.Message.Definition

/-!
# Looking up arguments by name

A call shows its arguments under distinct names and its template behind them, under a name that no
slot has. An unformatted name may be that very name: then the argument is found in place of the
template.
-/

namespace StructuredLog

/-! ## Pairs under distinct names -/

namespace View

theorem map_name_zipWith {names : List String} {values : List Value}
    (h : names.length = values.length) :
    (List.zipWith Pair.mk names values).map Pair.name = names := by
  apply List.ext_getElem
  · simp [h]
  · intro i hi _
    simp

theorem find?_zipWith (names : List String) (values : List Value) (h : names.Nodup) {i : Nat}
    (hn : i < names.length) (hv : i < values.length) :
    (List.zipWith Pair.mk names values).find? (fun pair => pair.name == names[i]) =
      some ⟨names[i], values[i]⟩ := by
  have hi : i < (List.zipWith Pair.mk names values).length := by
    rw [List.length_zipWith]
    omega
  rw [List.find?_eq_some_iff_getElem]
  refine ⟨by simp, i, hi, by simp, ?_⟩
  intro j hj
  have hne : names[j] ≠ names[i] := by
    intro he
    have hji : j = i := (List.Nodup.getElem_inj_iff h).mp he
    omega
  simpa using hne

theorem find?_eq_none_of_not_mem (pairs : List Pair) (name : String)
    (h : name ∉ pairs.map Pair.name) :
    pairs.find? (fun pair => pair.name == name) = none := by
  rw [List.find?_eq_none]
  intro pair hp he
  apply h
  rw [← show pair.name = name by simpa using he]
  exact List.mem_map_of_mem hp

end View

/-! ## The pairs of a call -/

namespace Message

variable {arity : Nat} (m : Message arity) (args : Vector Value arity)

/-- The arguments under their names, without the template. -/
def argumentPairs : List Pair :=
  List.zipWith Pair.mk m.names.toList args.toList

@[simp] theorem map_name_argumentPairs : (m.argumentPairs args).map Pair.name = m.names.toList :=
  View.map_name_zipWith (by simp)

theorem pairs_state :
    (m.state args).pairs =
      m.argumentPairs args ++ [⟨originalFormat, .str m.template.original⟩] := by
  rw [state, View.pairs, Indexed.toList_push, argumentPairs, ← View.pairs_zip, View.pairs]

theorem get?_state_of_lt (h : m.names.toList.Nodup) {i : Nat} (hi : i < arity) :
    (m.state args).get? m.names[i] = some args[i] := by
  have hfind := View.find?_zipWith m.names.toList args.toList h (by simpa using hi)
    (by simpa using hi)
  simp only [Vector.getElem_toList] at hfind
  rw [View.get?_eq_find?, pairs_state, List.find?_append, argumentPairs, hfind]
  rfl

/-- The template is found under its name if no argument has this name. -/
theorem get?_originalFormat_state (h : originalFormat ∉ m.names.toList) :
    (m.state args).get? originalFormat = some (.str m.template.original) := by
  have hfind := View.find?_eq_none_of_not_mem (m.argumentPairs args) originalFormat
    (by simpa using h)
  rw [View.get?_eq_find?, pairs_state, List.find?_append, hfind]
  simp

theorem template?_state_of_not_mem (h : originalFormat ∉ m.names.toList) :
    (m.state args).template? = some m.template.original := by
  rw [View.template?, m.get?_originalFormat_state args h]
  rfl

theorem fields_state :
    (m.state args).fields =
      (m.argumentPairs args).filter fun pair => pair.name ≠ originalFormat := by
  rw [View.fields, pairs_state, List.filter_append]
  simp

theorem fields_state_eq_iff :
    (m.state args).fields = m.argumentPairs args ↔ originalFormat ∉ m.names.toList := by
  rw [fields_state, List.filter_eq_self, ← map_name_argumentPairs m args]
  simp only [List.mem_map, decide_eq_true_eq, not_exists, not_and]

theorem nodup_names_state_iff (h : m.names.toList.Nodup) :
    ((m.state args).pairs.map Pair.name).Nodup ↔ originalFormat ∉ m.names.toList := by
  rw [pairs_state, List.map_append, map_name_argumentPairs, List.nodup_append]
  constructor
  · rintro ⟨-, -, hne⟩ hmem
    exact hne _ hmem originalFormat (by simp) rfl
  · intro hmem
    refine ⟨h, by simp, ?_⟩
    intro name hn other ho he
    obtain rfl : other = originalFormat := by simpa using ho
    exact hmem (he ▸ hn)

theorem Defined.originalFormat_mem_names_iff {level : Level} {event : EventId} {template : String}
    {unformatted : List String} {m : Message arity}
    (h : Defined arity level event template unformatted m) :
    originalFormat ∈ m.names.toList ↔ originalFormat ∈ unformatted := by
  rw [h.names_eq, List.mem_append, or_iff_right]
  intro hmem
  exact Template.ne_originalFormat_of_mem_names h.compile_eq hmem rfl

/-- Each argument of a call is found under its name. All names of the call are distinct, and its
fields are its arguments, exactly if no unformatted name is that of the template; then the template
is found too. Otherwise the argument of this name is found in its place. -/
theorem state_unambiguous_iff {level : Level} {event : EventId} {template : String}
    {unformatted : List String} {m : Message arity}
    (h : define arity level event template unformatted = .ok m) (args : Vector Value arity)
    (error : Option Displayed) :
    (∀ i (hi : i < arity), (m.state args).get? m.names[i] = some args[i]) ∧
    (((m.state args).pairs.map Pair.name).Nodup ↔ originalFormat ∉ unformatted) ∧
    ((m.entry args error).state.fields = List.zipWith Pair.mk m.names.toList args.toList ↔
      originalFormat ∉ unformatted) ∧
    (originalFormat ∉ unformatted → (m.entry args error).state.template? = some template) ∧
    (∀ i (hi : i < arity), m.names[i] = originalFormat →
      (m.entry args error).state.template? = args[i].str?) := by
  have hd := defined_of_define level event h
  rw [← hd.originalFormat_mem_names_iff]
  refine ⟨?_, ?_, ?_, ?_, ?_⟩
  · intro i hi
    exact m.get?_state_of_lt args hd.names_nodup hi
  · exact m.nodup_names_state_iff args hd.names_nodup
  · exact m.fields_state_eq_iff args
  · intro hmem
    rw [← Template.original_of_compile hd.compile_eq]
    exact m.template?_state_of_not_mem args hmem
  · intro i hi hname
    show (m.state args).template? = _
    rw [View.template?, ← hname, m.get?_state_of_lt args hd.names_nodup hi]
    rfl

theorem state_unambiguous_session :
    ∃ m, define 2 .info ⟨7, none⟩ "\x7buser\x7d" ["session"] = .ok m ∧
      (m.state #v[.str "alice", .str "s-1"]).get? m.names[1] = some (.str "s-1") ∧
      ((m.state #v[.str "alice", .str "s-1"]).pairs.map Pair.name).Nodup ∧
      (m.entry #v[.str "alice", .str "s-1"] none).state.template? = some "\x7buser\x7d" := by
  have h : define 2 .info ⟨7, none⟩ "\x7buser\x7d" ["session"] =
      .ok ⟨.info, ⟨7, none⟩, ⟨"\x7buser\x7d", [.slot 0], ["user"]⟩, #v["user", "session"]⟩ := rfl
  obtain ⟨hget, hnodup, -, htemplate, -⟩ :=
    state_unambiguous_iff h #v[.str "alice", .str "s-1"] none
  have hmem : originalFormat ∉ ["session"] := by decide
  exact ⟨_, h, hget 1 (by decide), hnodup.mpr hmem, htemplate hmem⟩

/-- An argument under the name of the template hides the template and is no field. -/
theorem template_hidden_by_argument :
    ∃ m, define 2 .info ⟨7, none⟩ "\x7buser\x7d" [originalFormat] = .ok m ∧
      ¬((m.state #v[.str "alice", .str "x"]).pairs.map Pair.name).Nodup ∧
      (m.entry #v[.str "alice", .str "x"] none).state.template? = some "x" ∧
      (m.entry #v[.str "alice", .str "x"] none).state.fields.map Pair.name = ["user"] := by
  refine ⟨⟨.info, ⟨7, none⟩, ⟨"\x7buser\x7d", [.slot 0], ["user"]⟩, #v["user", originalFormat]⟩,
    rfl, ?_, rfl, ?_⟩
  · simp [pairs_state]
  · simp [entry, fields_state, argumentPairs, originalFormat]

end Message

end StructuredLog
