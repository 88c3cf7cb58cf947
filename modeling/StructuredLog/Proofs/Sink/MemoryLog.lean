import StructuredLog.Proofs.Sink.AcceptedEntries
import StructuredLog.Proofs.Sink.MemoryEntries

/-!
# The log of a sink that remembers

Used like any other sink, a sink that remembers forgets nothing: it holds all its accepted entries,
and shows the scopes whose guards are held as open.
-/

namespace StructuredLog

/-! ## Steps on any sink -/

variable {κ : Type}

/-- The step where there are also operations that only one sink has. -/
def Step.widen : Step Empty → Step κ
  | .log e => .log e
  | .call m args error => .call m args error
  | .enter v => .enter v
  | .leave number => .leave number
  | .own operation => operation.elim

namespace Step

variable (st : Step Empty)

@[simp] theorem view?_widen : (st.widen : Step κ).view? = st.view? := by
  cases st with
  | own operation => exact operation.elim
  | _ => rfl

@[simp] theorem leaves_widen (number : Nat) :
    (st.widen : Step κ).leaves number = st.leaves number := by
  cases st with
  | own operation => exact operation.elim
  | _ => rfl

@[simp] theorem recorded?_widen (minLevel : Option Level) (rendering : Bool) :
    (st.widen : Step κ).recorded? minLevel rendering = st.recorded? minLevel rendering := by
  cases st with
  | own operation => exact operation.elim
  | _ => rfl

@[simp] theorem clears_widen : st.widen.clears = false := by
  cases st with
  | own operation => exact operation.elim
  | _ => rfl

end Step

namespace Session

variable {σ : Type} [Sink σ] [Sink.Operations κ σ]

theorem step_widen (s : Session σ) (st : Step Empty) : s.step (st.widen : Step κ) = s.step st := by
  cases st with
  | own operation => exact operation.elim
  | _ => rfl

theorem run_widen (s : Session σ) (steps : List (Step Empty)) :
    s.run (steps.map (Step.widen : Step Empty → Step κ)) = s.run steps := by
  rw [run, run, List.foldl_map]
  simp only [step_widen]

end Session

def Opening.widen (o : Opening Empty) : Opening κ where
  number := o.number
  view := o.view
  later := o.later.map Step.widen

@[simp] theorem Opening.dropped_widen (o : Opening Empty) :
    (o.widen : Opening κ).dropped = o.dropped := by
  simp [dropped, widen, List.any_map, Function.comp_def]

@[simp] theorem Opening.forgotten_widen (o : Opening Empty) : o.widen.forgotten = false := by
  simp [forgotten, widen]

theorem openingsFrom_widen (n : Nat) (steps : List (Step Empty)) :
    openingsFrom n (steps.map (Step.widen : Step Empty → Step κ)) =
      (openingsFrom n steps).map Opening.widen := by
  induction steps generalizing n with
  | nil => rfl
  | cons st steps ih =>
    rw [List.map_cons, openingsFrom, openingsFrom, Step.view?_widen]
    split
    · rw [ih, List.map_cons]
      rfl
    · exact ih n

/-! ## The sink and its run -/

namespace Memory

variable (minLevel : Option Level) (rendering : Bool) (steps : List (Step Empty))

/-- The open scopes are those whose guards are held. -/
theorem openScopes_run :
    (Session.run { sink := ({ minLevel, rendering } : Memory) } steps).sink.openScopes =
      (heldScopes scopeContent steps).map fun scope => ⟨scope.2, false⟩ := by
  have hreflects := reflects_run minLevel rendering (steps.map Step.widen)
  rw [Session.run_widen] at hreflects
  rw [openScopes, scopes, hreflects.scopeStore_eq, map_snd_numberedScopes, rememberedScopes,
    openings, openingsFrom_widen, List.filterMap_map, List.filter_filterMap, heldScopes,
    List.map_filterMap, openings]
  -- Nothing is forgotten, so what is not closed is what has its guard held.
  refine List.filterMap_congr fun o _ => ?_
  have hview : (o.widen : Opening Operation).view = o.view := rfl
  rw [Function.comp_apply, Opening.remembered?, Opening.scope?, Opening.forgotten_widen,
    Opening.dropped_widen, hview]
  cases o.dropped <;> cases scopeContent o.view <;> rfl

/-- The entries are those of all steps, as far as they are recorded. -/
theorem entries_run :
    (Session.run { sink := ({ minLevel, rendering } : Memory) } steps).sink.entries =
      steps.filterMap (Step.recorded? minLevel rendering) := by
  have hrecalls := recalls_run minLevel rendering (steps.map Step.widen)
  rw [Session.run_widen] at hrecalls
  have hsince : sinceClear (steps.map Step.widen) = steps.map Step.widen := by
    rw [sinceClear, List.rtakeWhile_eq_self_iff]
    simp
  rw [hrecalls.entries_eq, hsince, List.filterMap_map]
  simp only [Function.comp_def, Step.recorded?_widen]

/-- Without entries that are logged past the level, the entries are the accepted ones. -/
theorem entries_run_of_calls {minLevel : Level} {steps : List (Step Empty)}
    (hcalls : ∀ st ∈ steps, ∀ e, st ≠ .log e) (h : ∀ st ∈ steps, st.Displays) :
    (Session.run { sink := ({ minLevel, rendering := true } : Memory) } steps).sink.entries =
      (accepted minLevel steps).map fun l => l.entry.captured true := by
  have hrecorded : ∀ st ∈ steps, st.recorded? minLevel true =
      st.entry?.bind fun e => if minLevel ≤ e.level then e.recorded? true else none := by
    intro st hst
    cases st with
    | log e => exact absurd rfl (hcalls _ hst e)
    | call m args error => simp [Step.recorded?, Step.entry?, Message.entry]
    | _ => rfl
  rw [entries_run, List.filterMap_congr hrecorded, filterMap_entry?_bind, filterMap_logged]
  intro l hl
  rw [Entry.recorded?, fails_of_mem_logged h hl, if_neg Bool.false_ne_true]

end Memory

end StructuredLog
