import StructuredLog.Proofs.Message.Captured
import StructuredLog.Proofs.Sink.WrittenLines

/-!
# The entries that are accepted

If everything in a run can be displayed, a sink accepts the entries whose levels are enabled, all of
them and in the order of the run.
-/

namespace StructuredLog

/-! ## Steps that can be displayed -/

namespace Step

variable {κ : Type}

/-- Can everything in the step be displayed? A call is one of a message that could be defined. -/
def Displays : Step κ → Prop
  | .log e => e.fails true = false
  | .call m args error =>
    (∃ level event template unformatted,
      Message.define _ level event template unformatted = .ok m) ∧
    (∀ v ∈ args.toList, v.fails = false) ∧ ∀ object ∈ error, object.fails = false
  | .enter v => v.fails = false
  | _ => True

theorem Displays.fails_entry {st : Step κ} (h : st.Displays) {e : Entry}
    (he : st.entry? = some e) : e.fails true = false := by
  cases st with
  | log e' =>
    cases he
    exact h
  | call m args error =>
    cases he
    obtain ⟨⟨level, event, template, unformatted, hdefine⟩, hargs, herror⟩ := h
    exact (Message.defined_of_define level event hdefine).fails_entry_eq_false hargs herror
  | enter v => cases he
  | leave number => cases he
  | own operation => cases he

theorem Displays.fails_view {st : Step κ} (h : st.Displays) {v : View}
    (hv : st.view? = some v) : v.fails = false := by
  cases st with
  | enter v' =>
    cases hv
    exact h
  | log e => cases hv
  | call m args error => cases hv
  | leave number => cases hv
  | own operation => cases hv

end Step

/-! ## Runs -/

section Runs

variable {κ : Type}

theorem exists_step_of_mem_loggedFrom {earlier steps : List (Step κ)} {l : Logged κ}
    (h : l ∈ loggedFrom earlier steps) :
    ∃ before st rest, steps = before ++ st :: rest ∧ l.earlier = earlier ++ before ∧
      st.entry? = some l.entry := by
  induction steps generalizing earlier with
  | nil => cases h
  | cons st steps ih =>
    rw [loggedFrom, List.mem_append] at h
    rcases h with h | h
    · rw [Option.mem_toList, Option.map_eq_some_iff] at h
      obtain ⟨e, he, rfl⟩ := h
      exact ⟨[], st, steps, rfl, (List.append_nil _).symm, he⟩
    · obtain ⟨before, st', rest, rfl, hearlier, he⟩ := ih h
      refine ⟨st :: before, st', rest, rfl, ?_, he⟩
      rw [hearlier, List.append_assoc, List.singleton_append]

/-- A logged entry is one of a step, and comes with the steps before this. -/
theorem exists_step_of_mem_logged {steps : List (Step κ)} {l : Logged κ} (h : l ∈ logged steps) :
    ∃ st rest, steps = l.earlier ++ st :: rest ∧ st.entry? = some l.entry := by
  obtain ⟨before, st, rest, hsteps, hearlier, he⟩ := exists_step_of_mem_loggedFrom h
  rw [List.nil_append] at hearlier
  exact ⟨st, rest, hearlier ▸ hsteps, he⟩

theorem fails_of_mem_logged {steps : List (Step κ)} (h : ∀ st ∈ steps, st.Displays) {l : Logged κ}
    (hl : l ∈ logged steps) : l.entry.fails true = false := by
  obtain ⟨st, rest, hsteps, he⟩ := exists_step_of_mem_logged hl
  exact (h st (by simp [hsteps])).fails_entry he

theorem displays_earlier {steps : List (Step κ)} (h : ∀ st ∈ steps, st.Displays) {l : Logged κ}
    (hl : l ∈ logged steps) : ∀ st ∈ l.earlier, st.Displays := by
  obtain ⟨st, rest, hsteps, -⟩ := exists_step_of_mem_logged hl
  intro st' hst'
  exact h st' (by simp [hsteps, hst'])

theorem map_entry_loggedFrom (earlier steps : List (Step κ)) :
    (loggedFrom earlier steps).map Logged.entry = steps.filterMap Step.entry? := by
  induction steps generalizing earlier with
  | nil => rfl
  | cons st steps ih =>
    rw [loggedFrom, List.map_append, ih, List.filterMap_cons]
    cases st.entry? <;> rfl

/-- What is made of steps by their entries alone is made of the logged entries. -/
theorem filterMap_entry?_bind {β : Type} (f : Entry → Option β) (steps : List (Step κ)) :
    steps.filterMap (fun st => st.entry?.bind f) = (logged steps).filterMap fun l => f l.entry := by
  rw [← List.filterMap_filterMap, ← map_entry_loggedFrom [], List.filterMap_map]
  rfl

/-- The entries whose levels are enabled. -/
def accepted (minLevel : Level) (steps : List (Step κ)) : List (Logged κ) :=
  (logged steps).filter fun l => minLevel ≤ l.entry.level

/-- What a sink makes of entries that it accepts if their levels are enabled. -/
theorem filterMap_logged {β : Type} {minLevel : Level} {steps : List (Step κ)}
    {f : Logged κ → Option β} {g : Logged κ → β}
    (h : ∀ l ∈ logged steps, f l = if minLevel ≤ l.entry.level then some (g l) else none) :
    (logged steps).filterMap f = (accepted minLevel steps).map g := by
  rw [accepted, ← List.filterMap_eq_map, List.filterMap_filter]
  refine List.filterMap_congr fun l hl => ?_
  simp [h l hl]

end Runs

end StructuredLog
