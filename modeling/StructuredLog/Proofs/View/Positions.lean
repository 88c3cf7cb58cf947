import StructuredLog.Proofs.Message.Lookup
import StructuredLog.Scope

/-!
# Views by position

The view of a call and the view of a scope show the arguments in their order, each under the name
at its own position. Behind the arguments of a call stands the template, behind those of a scope
nothing.
-/

namespace StructuredLog

namespace View

/-- The view shows `values` under `names`, then the pairs `rest`, and nothing else, however it is
looked at. -/
structure Positional {n : Nat} (v : View) (names : Vector String n) (values : Vector Value n)
    (rest : List Pair) : Prop where
  count_eq : v.count = n + rest.length
  isSome_at?_iff : ∀ i, (v.at? i).isSome = true ↔ i < n + rest.length
  at?_of_lt : ∀ i (h : i < n), v.at? i = some ⟨names[i], values[i]⟩
  at?_add : ∀ i, v.at? (n + i) = rest[i]?
  pairs_eq : v.pairs = List.zipWith Pair.mk names.toList values.toList ++ rest
  count_values_eq : v.values.count = n + rest.length
  at?_values_of_lt : ∀ i (h : i < n), v.values.at? i = some values[i]
  toList_values_eq : v.values.toList = values.toList ++ rest.map Pair.value

theorem map_value_zipWith {names : List String} {values : List Value}
    (h : names.length = values.length) :
    (List.zipWith Pair.mk names values).map Pair.value = values := by
  apply List.ext_getElem
  · simp [h]
  · intro i hi _
    simp

/-- The pairs that are visited in order determine what is seen at each position. -/
theorem positional_of_pairs_eq {n : Nat} {v : View} {names : Vector String n}
    {values : Vector Value n} {rest : List Pair}
    (h : v.pairs = List.zipWith Pair.mk names.toList values.toList ++ rest) :
    v.Positional names values rest := by
  have hlength : (List.zipWith Pair.mk names.toList values.toList).length = n := by simp
  have hcount : v.count = n + rest.length := by
    rw [← v.length_toList, ← pairs, h, List.length_append, hlength]
  have hat (i : Nat) :
      v.at? i = (List.zipWith Pair.mk names.toList values.toList ++ rest)[i]? := by
    rw [← getElem?_pairs, h]
  have hargument (i : Nat) (hi : i < n) : v.at? i = some ⟨names[i], values[i]⟩ := by
    rw [hat, List.getElem?_append_left (by omega)]
    simp [hi]
  refine ⟨hcount, ?_, hargument, ?_, h, hcount, ?_, ?_⟩
  · intro i
    rw [v.isSome_at?_iff, hcount]
  · intro i
    rw [hat, List.getElem?_append_right (by omega), hlength, Nat.add_sub_cancel_left]
  · intro i hi
    show (v.at? i).map Pair.value = some values[i]
    rw [hargument i hi]
    rfl
  · rw [toList_values, h, List.map_append, map_value_zipWith (by simp)]

theorem positional_zip {n : Nat} (names : Vector String n) (values : Vector Value n) :
    (zip names values).Positional names values [] := by
  apply positional_of_pairs_eq
  rw [pairs_zip, List.append_nil]

theorem positional_push_zip {n : Nat} (names : Vector String n) (values : Vector Value n)
    (last : Pair) : View.Positional ((zip names values).push last) names values [last] := by
  apply positional_of_pairs_eq
  rw [pairs, Indexed.toList_push, ← pairs, pairs_zip]

end View

theorem Scope.toList_names_of_define {arity : Nat} {names : List String} {s : Scope arity}
    (h : Scope.define arity names = .ok s) : s.names.toList = names := by
  rw [Scope.define] at h
  split at h
  · cases h
    rfl
  · cases h

/-- A message and a scope that could be defined show every argument at its own position, under the
name that their definition has there: the slots' names before the unformatted ones. The view of the
message ends with the template, and that of the scope with the arguments. -/
theorem states_positional (arity : Nat) :
    (∀ (level : Level) (event : EventId) (template : String) (unformatted : List String)
        (m : Message arity), Message.define arity level event template unformatted = .ok m →
      Template.compile template = .ok m.template ∧
      m.names.toList = m.template.names ++ unformatted ∧
      ∀ args : Vector Value arity,
        (m.state args).Positional m.names args [⟨originalFormat, .str template⟩]) ∧
    ∀ (names : List String) (s : Scope arity), Scope.define arity names = .ok s →
      s.names.toList = names ∧
      ∀ args : Vector Value arity, (s.state args).Positional s.names args [] := by
  refine ⟨?_, ?_⟩
  · intro level event template unformatted m h
    have hd := Message.defined_of_define level event h
    refine ⟨hd.compile_eq, hd.names_eq, ?_⟩
    intro args
    rw [← Template.original_of_compile hd.compile_eq]
    exact View.positional_push_zip m.names args _
  · intro names s h
    exact ⟨Scope.toList_names_of_define h, fun args => View.positional_zip s.names args⟩

/-- One slot and one unformatted name; a scope whose two names are equal. -/
theorem states_positional_pair :
    (∃ m, Message.define 2 .info ⟨7, none⟩ "\x7buser\x7d" ["session"] = .ok m ∧
      (m.state #v[.str "alice", .null]).Positional m.names #v[.str "alice", .null]
        [⟨originalFormat, .str "\x7buser\x7d"⟩]) ∧
    ∃ s, Scope.define 2 ["tag", "tag"] = .ok s ∧
      (s.state #v[.bool true, .null]).Positional s.names #v[.bool true, .null] [] := by
  have hm : Message.define 2 .info ⟨7, none⟩ "\x7buser\x7d" ["session"] =
      .ok ⟨.info, ⟨7, none⟩, ⟨"\x7buser\x7d", [.slot 0], ["user"]⟩, #v["user", "session"]⟩ := rfl
  have hs : Scope.define 2 ["tag", "tag"] = .ok ⟨#v["tag", "tag"]⟩ := rfl
  obtain ⟨hmessage, hscope⟩ := states_positional 2
  exact ⟨⟨_, hm, (hmessage _ _ _ _ _ hm).2.2 _⟩, ⟨_, hs, (hscope _ _ hs).2 _⟩⟩

end StructuredLog
