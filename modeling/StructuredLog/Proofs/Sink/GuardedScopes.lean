import Mathlib.Data.List.Induction
import StructuredLog.Proofs.Sink.Run
import StructuredLog.Sink.OpenScopes

/-!
# Scopes that are open as long as their guards are held

A sink that removes a scope when its guard is dropped has, after any run, exactly the scopes open
whose guards are held. Guards and scopes are linked by a number that the sink gives to each scope it
opens, so scopes with equal contents are told apart and guards can be dropped in any order.
-/

namespace StructuredLog

/-- A sink whose open scopes are `scopes`, each with what `content` makes of its view. A view
without content cannot be opened. -/
structure Sink.KeepsScopes {σ α : Type} [Sink σ] (scopes : σ → OpenScopes α)
    (content : View → Option α) : Prop where
  logging : Sink.LoggingKeeps scopes
  beginScope_result : ∀ v s, (Sink.beginScope v s).1.result =
    (content v).map fun _ => .closes (scopes s).nextId
  scopes_beginScope : ∀ v s, scopes (Sink.beginScope v s).2 =
    ((content v).map fun a => ((scopes s).push a).2).getD (scopes s)
  scopes_endScope : ∀ id s, scopes (Sink.endScope id s) = (scopes s).remove id
  endScope_comm : ∀ id id' (s : σ),
    Sink.endScope id (Sink.endScope id' s) = Sink.endScope id' (Sink.endScope id s)

theorem OpenScopes.remove_comm {α : Type} (id id' : Nat) (s : OpenScopes α) :
    (s.remove id').remove id = (s.remove id).remove id' := by
  simp only [remove, List.filter_filter, Bool.and_comm]

section Guarded

variable {σ α : Type} {scopes : σ → OpenScopes α} {content : View → Option α}

/-! ## The open scopes of a session -/

/-- The guard with this number. -/
def Session.guard? (number : Nat) (s : Session σ) : Option (Nat × Guard) :=
  s.guards.find? fun held => held.1 = number

/-- An open scope: its number for the caller, its number in the sink, and its content. -/
structure ScopeRow (α : Type) where
  number : Nat
  id : Nat
  content : α

/-- The rows list the scopes whose guards are held as the caller, the sink and the history of the
session know them. -/
structure Tallies (scopes : σ → OpenScopes α) (content : View → Option α) (rows : List (ScopeRow α))
    (s : Session σ) (steps : List (Step Empty)) : Prop where
  openings_eq : s.openings = (openings steps).length
  guards_eq : s.guards = rows.map fun row => (row.number, .closes row.id)
  entries_eq : (scopes s.sink).entries = rows.map fun row => (row.id, row.content)
  held_eq : heldScopes content steps = rows.map fun row => (row.number, row.content)
  nodup_ids : (rows.map ScopeRow.id).Nodup
  id_lt_nextId : ∀ row ∈ rows, row.id < (scopes s.sink).nextId

variable {rows : List (ScopeRow α)} {s : Session σ} {steps : List (Step Empty)}

theorem Tallies.nodup_numbers (h : Tallies scopes content rows s steps) :
    (rows.map ScopeRow.number).Nodup := by
  have hlt := pairwise_heldScopes content steps
  rw [h.held_eq, List.pairwise_map] at hlt
  rw [List.Nodup, List.pairwise_map]
  exact hlt.imp Nat.ne_of_lt

/-- A step that neither opens nor drops changes nothing of the scopes. -/
theorem Tallies.append (h : Tallies scopes content rows s steps) {sink : σ} {st : Step Empty}
    (hview : st.view? = none) (hleaves : ∀ number, st.leaves number = false)
    (hsink : scopes sink = scopes s.sink) :
    Tallies scopes content rows { s with sink } (steps ++ [st]) where
  openings_eq := by rw [length_openings_append steps hview, ← h.openings_eq]
  guards_eq := h.guards_eq
  entries_eq := by rw [← h.entries_eq, ← hsink]
  held_eq := by rw [heldScopes_append_of_not_leaves _ _ hview hleaves, h.held_eq]
  nodup_ids := h.nodup_ids
  id_lt_nextId := by simpa only [hsink] using h.id_lt_nextId

/-- A guard that is not held belongs to no row. -/
theorem Tallies.filter_number_of_guard?_eq_none (h : Tallies scopes content rows s steps)
    {number : Nat} (hn : s.guard? number = none) :
    rows.filter (fun row => row.number ≠ number) = rows := by
  rw [Session.guard?, h.guards_eq, List.find?_eq_none] at hn
  rw [List.filter_eq_self]
  intro row hrow
  simpa using hn _ (List.mem_map_of_mem hrow)

/-- The sink's number tells a row from the others just as the caller's does. -/
theorem Tallies.filter_id (h : Tallies scopes content rows s steps) {row : ScopeRow α}
    (hrow : row ∈ rows) :
    rows.filter (fun r => r.id ≠ row.id) = rows.filter fun r => r.number ≠ row.number := by
  apply List.filter_congr
  intro r hr
  have hid : r.id = row.id → r = row := List.inj_on_of_nodup_map h.nodup_ids hr hrow
  have hnumber : r.number = row.number → r = row :=
    List.inj_on_of_nodup_map h.nodup_numbers hr hrow
  have hiff : r.id = row.id ↔ r.number = row.number :=
    ⟨fun he => congrArg _ (hid he), fun he => congrArg _ (hnumber he)⟩
  simp only [ne_eq, hiff]

variable [Sink σ]

/-! ## Dropping guards in any order -/

theorem Sink.KeepsScopes.close_comm (h : Sink.KeepsScopes scopes content) (g g' : Guard) (s : σ) :
    Sink.close g (Sink.close g' s) = Sink.close g' (Sink.close g s) := by
  cases g with
  | noop => rfl
  | closes id =>
    cases g' with
    | noop => rfl
    | closes id' => exact h.endScope_comm id id' s

theorem Session.step_leave_of_guard?_eq_none {s : Session σ} {number : Nat}
    (h : s.guard? number = none) : s.step (Step.leave number : Step Empty) = s := by
  rw [guard?] at h
  rw [step, h]

theorem Session.step_leave_of_guard?_eq_some {s : Session σ} {number : Nat} {held : Nat × Guard}
    (h : s.guard? number = some held) :
    s.step (Step.leave number : Step Empty) = { s with
      sink := Sink.close held.2 s.sink
      guards := s.guards.filter fun held => held.1 ≠ number } := by
  rw [guard?] at h
  rw [step, h]

/-- Dropping a guard leaves the others held. -/
theorem Session.guard?_step_leave {a b : Nat} (hab : a ≠ b) (s : Session σ) :
    (s.step (Step.leave a : Step Empty)).guard? b = s.guard? b := by
  cases ha : s.guard? a with
  | none => rw [step_leave_of_guard?_eq_none ha]
  | some held =>
    rw [step_leave_of_guard?_eq_some ha, guard?, guard?, List.find?_filter]
    congr 1
    funext held
    by_cases hb : held.1 = b <;> simp [hb, Ne.symm hab]

theorem Sink.KeepsScopes.step_leave_comm (h : Sink.KeepsScopes scopes content) (s : Session σ)
    (a b : Nat) :
    (s.step (Step.leave a : Step Empty)).step (Step.leave b : Step Empty) =
      (s.step (Step.leave b : Step Empty)).step (Step.leave a : Step Empty) := by
  by_cases hab : a = b
  · rw [hab]
  have hb' := s.guard?_step_leave hab
  have ha' := s.guard?_step_leave (Ne.symm hab)
  cases ha : s.guard? a with
  | none =>
    rw [ha] at ha'
    rw [Session.step_leave_of_guard?_eq_none ha, Session.step_leave_of_guard?_eq_none ha']
  | some held =>
    cases hb : s.guard? b with
    | none =>
      rw [hb] at hb'
      rw [Session.step_leave_of_guard?_eq_none hb, Session.step_leave_of_guard?_eq_none hb']
    | some held' =>
      rw [ha] at ha'
      rw [hb] at hb'
      rw [Session.step_leave_of_guard?_eq_some hb', Session.step_leave_of_guard?_eq_some ha',
        Session.step_leave_of_guard?_eq_some ha, Session.step_leave_of_guard?_eq_some hb]
      simp only [h.close_comm held.2 held'.2, List.filter_filter, Bool.and_comm]

/-- Guards may be dropped in any order. -/
theorem Sink.KeepsScopes.run_leave_perm (h : Sink.KeepsScopes scopes content)
    {numbers numbers' : List Nat} (hp : numbers.Perm numbers') (s : Session σ) :
    s.run (numbers.map (Step.leave : Nat → Step Empty)) =
      s.run (numbers'.map (Step.leave : Nat → Step Empty)) := by
  rw [Session.run, Session.run, List.foldl_map, List.foldl_map]
  exact hp.foldl_eq' (fun a _ b _ s => h.step_leave_comm s a b) s

/-! ## Steps -/

theorem Tallies.enter_of_eq_none (h : Tallies scopes content rows s steps)
    (hk : Sink.KeepsScopes scopes content) {v : View} (hv : content v = none) :
    Tallies scopes content rows (s.step (Step.enter v : Step Empty)) (steps ++ [.enter v]) := by
  have hscopes : scopes (Sink.beginScope v s.sink).2 = scopes s.sink := by
    rw [hk.scopes_beginScope, hv]
    rfl
  refine ⟨?_, ?_, ?_, ?_, h.nodup_ids, ?_⟩
  · show s.openings + 1 = _
    rw [length_openings_append_enter, h.openings_eq]
  · show s.guards ++ ((Sink.beginScope v s.sink).1.result.map (s.openings, ·)).toList = _
    rw [hk.beginScope_result, hv, h.guards_eq]
    exact List.append_nil _
  · show (scopes (Sink.beginScope v s.sink).2).entries = _
    rw [hscopes, h.entries_eq]
  · rw [heldScopes_append_enter, hv, h.held_eq]
    exact List.append_nil _
  · show ∀ row ∈ rows, row.id < (scopes (Sink.beginScope v s.sink).2).nextId
    rw [hscopes]
    exact h.id_lt_nextId

theorem Tallies.enter_of_eq_some (h : Tallies scopes content rows s steps)
    (hk : Sink.KeepsScopes scopes content) {v : View} {a : α} (hv : content v = some a) :
    Tallies scopes content (rows ++ [⟨s.openings, (scopes s.sink).nextId, a⟩])
      (s.step (Step.enter v : Step Empty)) (steps ++ [.enter v]) := by
  have hscopes : scopes (Sink.beginScope v s.sink).2 = ((scopes s.sink).push a).2 := by
    rw [hk.scopes_beginScope, hv]
    rfl
  refine ⟨?_, ?_, ?_, ?_, ?_, ?_⟩
  · show s.openings + 1 = _
    rw [length_openings_append_enter, h.openings_eq]
  · show s.guards ++ ((Sink.beginScope v s.sink).1.result.map (s.openings, ·)).toList = _
    rw [hk.beginScope_result, hv, h.guards_eq, List.map_append]
    rfl
  · show (scopes (Sink.beginScope v s.sink).2).entries = _
    rw [hscopes, OpenScopes.push, h.entries_eq, List.map_append]
    rfl
  · rw [heldScopes_append_enter, hv, h.held_eq, h.openings_eq, List.map_append]
    rfl
  · rw [List.map_append, List.map_singleton]
    refine h.nodup_ids.append (List.nodup_singleton _) ?_
    rw [List.disjoint_singleton, List.mem_map]
    rintro ⟨row, hrow, hid⟩
    exact Nat.ne_of_lt (h.id_lt_nextId row hrow) hid
  · intro row hrow
    show row.id < (scopes (Sink.beginScope v s.sink).2).nextId
    rw [hscopes]
    rcases List.mem_append.mp hrow with hrow | hrow
    · exact Nat.lt_succ_of_lt (h.id_lt_nextId row hrow)
    · rw [List.mem_singleton.mp hrow]
      exact Nat.lt_succ_self _

theorem Tallies.leave (h : Tallies scopes content rows s steps)
    (hk : Sink.KeepsScopes scopes content) (number : Nat) :
    Tallies scopes content (rows.filter fun row => row.number ≠ number)
      (s.step (Step.leave number : Step Empty)) (steps ++ [.leave number]) := by
  have hheld : heldScopes content (steps ++ [.leave number]) =
      (rows.filter fun row => row.number ≠ number).map fun row => (row.number, row.content) := by
    rw [heldScopes_append_leave, h.held_eq, List.filter_map]
    rfl
  have hlength : (openings (steps ++ [.leave number])).length = (openings steps).length :=
    length_openings_append steps rfl
  cases hn : s.guard? number with
  | none =>
    rw [h.filter_number_of_guard?_eq_none hn] at hheld ⊢
    rw [Session.step_leave_of_guard?_eq_none hn]
    exact { h with
      openings_eq := by rw [hlength, h.openings_eq]
      held_eq := hheld }
  | some held =>
    rw [Session.step_leave_of_guard?_eq_some hn]
    have hmem := List.mem_of_find?_eq_some hn
    rw [h.guards_eq] at hmem
    obtain ⟨row, hrow, rfl⟩ := List.mem_map.mp hmem
    obtain rfl : row.number = number := by simpa using List.find?_some hn
    have hscopes : scopes (Sink.endScope row.id s.sink) = (scopes s.sink).remove row.id :=
      hk.scopes_endScope row.id s.sink
    refine ⟨?_, ?_, ?_, hheld, ?_, ?_⟩
    · rw [hlength, ← h.openings_eq]
    · rw [h.guards_eq, List.filter_map]
      rfl
    · show (scopes (Sink.endScope row.id s.sink)).entries = _
      rw [hscopes, OpenScopes.remove, h.entries_eq, List.filter_map, ← h.filter_id hrow]
      rfl
    · exact h.nodup_ids.sublist (List.filter_sublist.map _)
    · intro r hr
      show r.id < (scopes (Sink.endScope row.id s.sink)).nextId
      rw [hscopes]
      exact h.id_lt_nextId r (List.mem_of_mem_filter hr)

theorem Tallies.step (h : Tallies scopes content rows s steps)
    (hk : Sink.KeepsScopes scopes content) (st : Step Empty) :
    ∃ rows', Tallies scopes content rows' (s.step st) (steps ++ [st]) := by
  cases st with
  | log e => exact ⟨rows, h.append rfl (fun _ => rfl) (hk.logging.log e s.sink)⟩
  | call m args error =>
    exact ⟨rows, h.append rfl (fun _ => rfl) (hk.logging.message_log m args error s.sink)⟩
  | enter v =>
    cases hv : content v with
    | none => exact ⟨rows, h.enter_of_eq_none hk hv⟩
    | some a => exact ⟨_, h.enter_of_eq_some hk hv⟩
  | leave number => exact ⟨_, h.leave hk number⟩
  | own operation => exact operation.elim

theorem exists_tallies_run (hk : Sink.KeepsScopes scopes content) {init : σ}
    (hinit : (scopes init).entries = []) (steps : List (Step Empty)) :
    ∃ rows, Tallies scopes content rows (Session.run { sink := init } steps) steps := by
  induction steps using List.reverseRecOn with
  | nil => exact ⟨[], rfl, rfl, hinit, rfl, List.nodup_nil, List.forall_mem_nil _⟩
  | append_singleton steps st ih =>
    obtain ⟨rows, ih⟩ := ih
    rw [Session.run_append_singleton]
    exact ih.step hk st

/-! ## Runs -/

/-- Whatever is done with a sink from `init` on, its open scopes are those whose guards are held. -/
structure ScopesFollowGuards (scopes : σ → OpenScopes α) (content : View → Option α) (init : σ) :
    Prop where
  /-- Opening a scope returns a guard exactly if the view has a content. -/
  returned_iff : ∀ (steps : List (Step Empty)) (v : View),
    (Sink.beginScope v (Session.run { sink := init } steps).sink).1.result.isSome ↔
      (content v).isSome
  /-- The guards are held that were returned and not dropped since. -/
  guards_eq : ∀ steps : List (Step Empty),
    (Session.run { sink := init } steps).guards.map Prod.fst =
      (heldScopes content steps).map Prod.fst
  /-- The scopes are in the order of their opening, each with the content of what was opened. -/
  contents_eq : ∀ steps : List (Step Empty),
    (scopes (Session.run { sink := init } steps).sink).contents =
      (heldScopes content steps).map Prod.snd
  /-- A dropped guard takes its own scope away and keeps the order of the others. -/
  contents_leave : ∀ (steps : List (Step Empty)) (number : Nat),
    (scopes (Session.run { sink := init } (steps ++ [.leave number])).sink).contents =
      ((heldScopes content steps).filter fun scope => scope.1 ≠ number).map Prod.snd
  /-- The order in which guards are dropped does not matter to anything later. -/
  leave_perm : ∀ (steps rest : List (Step Empty)) {numbers numbers' : List Nat},
    numbers.Perm numbers' →
      Session.run { sink := init } (steps ++ numbers.map .leave ++ rest) =
        Session.run { sink := init } (steps ++ numbers'.map .leave ++ rest)
  contents_of_guards_eq_nil : ∀ steps : List (Step Empty),
    (Session.run { sink := init } steps).guards = [] →
      (scopes (Session.run { sink := init } steps).sink).contents = []

theorem Sink.KeepsScopes.scopesFollowGuards (hk : Sink.KeepsScopes scopes content) {init : σ}
    (hinit : (scopes init).entries = []) : ScopesFollowGuards scopes content init := by
  have hcontents (steps : List (Step Empty)) :
      (scopes (Session.run { sink := init } steps).sink).contents =
        (heldScopes content steps).map Prod.snd := by
    obtain ⟨rows, h⟩ := exists_tallies_run hk hinit steps
    rw [OpenScopes.contents, h.entries_eq, h.held_eq, List.map_map, List.map_map]
    rfl
  refine ⟨?_, ?_, hcontents, ?_, ?_, ?_⟩
  · intro steps v
    rw [hk.beginScope_result, Option.isSome_map]
  · intro steps
    obtain ⟨rows, h⟩ := exists_tallies_run hk hinit steps
    rw [h.guards_eq, h.held_eq, List.map_map, List.map_map]
    rfl
  · intro steps number
    rw [hcontents, heldScopes_append_leave]
  · intro steps rest numbers numbers' hp
    rw [Session.run_append, Session.run_append, Session.run_append, Session.run_append,
      hk.run_leave_perm hp]
  · intro steps hguards
    obtain ⟨rows, h⟩ := exists_tallies_run hk hinit steps
    obtain rfl : rows = [] := by simpa [hguards] using h.guards_eq
    rw [OpenScopes.contents, h.entries_eq]
    rfl

end Guarded

end StructuredLog
