import Mathlib.Data.List.Nodup
import StructuredLog.Sink

/-!
# Runs of a sink

A run is a sequence of steps on one sink. Its caller numbers the scopes that it tries to open, holds
a guard for each one that was opened, and drops each guard at most once, in any order. What the
steps say about scopes is read off the openings: what was opened, and which steps came later.
-/

namespace StructuredLog

/-! ## Steps -/

/-- One step of a run; `κ` holds the operations that only the sink of this run has. -/
inductive Step (κ : Type)
  /-- Logs an entry without asking whether its level is enabled. -/
  | log (e : Entry)
  | call {arity : Nat} (m : Message arity) (args : Vector Value arity) (error : Option Displayed)
  | enter (v : View)
  /-- Drops the guard of the scope with this number. -/
  | leave (number : Nat)
  | own (operation : κ)

namespace Step

variable {κ : Type}

/-- The entry that the step logs, if its level is enabled. -/
def entry? : Step κ → Option Entry
  | .log e => some e
  | .call m args error => some (m.entry args error)
  | _ => none

def view? : Step κ → Option View
  | .enter v => some v
  | _ => none

def leaves (number : Nat) : Step κ → Bool
  | .leave n => number = n
  | _ => false

end Step

/-- What a sink's own operations do. -/
class Sink.Operations (κ σ : Type) where
  operate : κ → σ → σ

/-- A sink without operations of its own. -/
instance (σ : Type) : Sink.Operations Empty σ where
  operate operation := operation.elim

/-! ## Sessions -/

/-- A sink and the guards that its caller holds. -/
structure Session (σ : Type) where
  sink : σ
  /-- How many scopes the caller has tried to open. -/
  openings : Nat := 0
  /-- The guards, each with the number of its scope. -/
  guards : List (Nat × Guard) := []

namespace Session

variable {σ κ : Type} [Sink σ] [Sink.Operations κ σ]

/-- A scope that could not be opened takes a number too. A guard that is not held cannot be
dropped. -/
def step (s : Session σ) : Step κ → Session σ
  | .log e => { s with sink := (Sink.log e s.sink).2 }
  | .call m args error => { s with sink := (m.log args error s.sink).2 }
  | .enter v =>
    let (guard, sink) := Sink.beginScope v s.sink
    { sink
      openings := s.openings + 1
      guards := s.guards ++ (guard.result.map (s.openings, ·)).toList }
  | .leave number =>
    match s.guards.find? fun held => held.1 = number with
    | some (_, guard) => { s with
        sink := Sink.close guard s.sink
        guards := s.guards.filter fun held => held.1 ≠ number }
    | none => s
  | .own operation => { s with sink := Sink.Operations.operate operation s.sink }

def run (s : Session σ) (steps : List (Step κ)) : Session σ :=
  steps.foldl step s

theorem run_append (s : Session σ) (xs ys : List (Step κ)) :
    s.run (xs ++ ys) = (s.run xs).run ys :=
  List.foldl_append

theorem run_append_singleton (s : Session σ) (steps : List (Step κ)) (st : Step κ) :
    s.run (steps ++ [st]) = (s.run steps).step st :=
  s.run_append steps [st]

end Session

/-! ## What is left alone -/

/-- Neither asking for a level nor logging an entry changes what `f` sees of the sink. -/
structure Sink.LoggingKeeps {σ β : Type} [Sink σ] (f : σ → β) : Prop where
  isEnabled : ∀ level s, f (Sink.isEnabled level s).2 = f s
  log : ∀ e s, f (Sink.log e s).2 = f s

theorem Sink.LoggingKeeps.message_log {σ β : Type} [Sink σ] {f : σ → β} (h : LoggingKeeps f)
    {arity : Nat} (m : Message arity) (args : Vector Value arity) (error : Option Displayed)
    (s : σ) : f (m.log args error s).2 = f s := by
  rw [Message.log]
  split
  rename_i enabled s' he
  have hs : f s' = f s := by simpa [he] using h.isEnabled m.level s
  split
  · rw [h.log, hs]
  · exact hs

/-- Dropping a guard, held or not, keeps what ending a scope keeps. -/
theorem Session.step_leave_keeps {σ κ β : Type} [Sink σ] [Sink.Operations κ σ] {f : σ → β}
    (h : ∀ id s, f (Sink.endScope id s) = f s) (s : Session σ) (number : Nat) :
    f (s.step (Step.leave number : Step κ)).sink = f s.sink := by
  rw [step]
  split
  · rename_i guard _
    cases guard with
    | noop => rfl
    | closes id => exact h id s.sink
  · rfl

/-- No use of the sink changes what `f` sees of it. -/
structure Sink.Keeps {σ β : Type} [Sink σ] (f : σ → β) : Prop where
  logging : LoggingKeeps f
  beginScope : ∀ v s, f (Sink.beginScope v s).2 = f s
  endScope : ∀ id s, f (Sink.endScope id s) = f s

theorem Sink.Keeps.step {σ β : Type} [Sink σ] {f : σ → β} (h : Keeps f) (s : Session σ)
    (st : Step Empty) : f (s.step st).sink = f s.sink := by
  cases st with
  | log e => exact h.logging.log e s.sink
  | call m args error => exact h.logging.message_log m args error s.sink
  | enter v => exact h.beginScope v s.sink
  | leave number => exact s.step_leave_keeps h.endScope number
  | own operation => exact operation.elim

theorem Sink.Keeps.run {σ β : Type} [Sink σ] {f : σ → β} (h : Keeps f) (s : Session σ)
    (steps : List (Step Empty)) : f (s.run steps).sink = f s.sink := by
  induction steps generalizing s with
  | nil => rfl
  | cons st steps ih => exact (ih (s.step st)).trans (h.step s st)

/-! ## Openings -/

/-- An attempt to open a scope, and the steps behind it. -/
structure Opening (κ : Type) where
  number : Nat
  view : View
  later : List (Step κ)

variable {κ : Type}

/-- Has the guard of the scope been dropped, if there was one? -/
def Opening.dropped (o : Opening κ) : Bool :=
  o.later.any (Step.leaves o.number)

/-- The openings of a run, numbered from `n` on. -/
def openingsFrom (n : Nat) : List (Step κ) → List (Opening κ)
  | [] => []
  | st :: rest =>
    match st.view? with
    | some v => ⟨n, v, rest⟩ :: openingsFrom (n + 1) rest
    | none => openingsFrom n rest

def openings (steps : List (Step κ)) : List (Opening κ) :=
  openingsFrom 0 steps

/-- The opening when more steps have followed. -/
def Opening.followedBy (steps : List (Step κ)) (o : Opening κ) : Opening κ :=
  { o with later := o.later ++ steps }

@[simp] theorem Opening.number_followedBy (steps : List (Step κ)) (o : Opening κ) :
    (o.followedBy steps).number = o.number := rfl

@[simp] theorem Opening.view_followedBy (steps : List (Step κ)) (o : Opening κ) :
    (o.followedBy steps).view = o.view := rfl

@[simp] theorem Opening.dropped_followedBy (steps : List (Step κ)) (o : Opening κ) :
    (o.followedBy steps).dropped = (o.dropped || steps.any (Step.leaves o.number)) :=
  List.any_append

theorem openingsFrom_append (n : Nat) (xs ys : List (Step κ)) :
    openingsFrom n (xs ++ ys) = (openingsFrom n xs).map (Opening.followedBy ys) ++
      openingsFrom (n + (openingsFrom n xs).length) ys := by
  induction xs generalizing n with
  | nil => rfl
  | cons st xs ih =>
    rw [List.cons_append, openingsFrom, openingsFrom]
    split
    · rw [ih, List.map_cons, List.length_cons, List.cons_append, Nat.add_assoc, Nat.add_comm 1]
      rfl
    · exact ih n

theorem openings_append_singleton (steps : List (Step κ)) (st : Step κ) :
    openings (steps ++ [st]) = (openings steps).map (Opening.followedBy [st]) ++
      (st.view?.map fun v => ⟨(openings steps).length, v, []⟩).toList := by
  rw [openings, openingsFrom_append, Nat.zero_add, openingsFrom]
  cases st.view? <;> rfl

theorem openings_append_enter (steps : List (Step κ)) (v : View) :
    openings (steps ++ [.enter v]) = (openings steps).map (Opening.followedBy [.enter v]) ++
      [⟨(openings steps).length, v, []⟩] :=
  openings_append_singleton steps (.enter v)

theorem openings_append_of_view?_eq_none (steps : List (Step κ)) {st : Step κ}
    (h : st.view? = none) :
    openings (steps ++ [st]) = (openings steps).map (Opening.followedBy [st]) := by
  simp [openings_append_singleton, h]

theorem length_openings_append_enter (steps : List (Step κ)) (v : View) :
    (openings (steps ++ [.enter v])).length = (openings steps).length + 1 := by
  rw [openings_append_enter, List.length_append, List.length_map, List.length_singleton]

theorem length_openings_append (steps : List (Step κ)) {st : Step κ} (h : st.view? = none) :
    (openings (steps ++ [st])).length = (openings steps).length := by
  rw [openings_append_of_view?_eq_none steps h, List.length_map]

/-- What `f` reads off the openings gets one entry more, if opening more scopes does not matter to
the ones before. -/
theorem filterMap_openings_append_enter {β : Type} {f : Opening κ → Option β} {v : View}
    (hf : ∀ o, f (o.followedBy [.enter v]) = f o) (steps : List (Step κ)) :
    (openings (steps ++ [.enter v])).filterMap f =
      (openings steps).filterMap f ++ (f ⟨(openings steps).length, v, []⟩).toList := by
  rw [openings_append_enter, List.filterMap_append, List.filterMap_map, Function.comp_def]
  simp only [hf]
  congr 1

theorem filterMap_openings_append {β : Type} (f : Opening κ → Option β) (steps : List (Step κ))
    {st : Step κ} (h : st.view? = none) :
    (openings (steps ++ [st])).filterMap f =
      (openings steps).filterMap fun o => f (o.followedBy [st]) := by
  rw [openings_append_of_view?_eq_none steps h, List.filterMap_map, Function.comp_def]

theorem exists_step_of_mem_openingsFrom {n : Nat} {steps : List (Step κ)} {o : Opening κ}
    (h : o ∈ openingsFrom n steps) : ∃ st ∈ steps, st.view? = some o.view := by
  induction steps generalizing n with
  | nil => cases h
  | cons st steps ih =>
    rw [openingsFrom] at h
    cases hview : st.view? with
    | none =>
      rw [hview] at h
      obtain ⟨st', hst', hview'⟩ := ih h
      exact ⟨st', List.mem_cons_of_mem st hst', hview'⟩
    | some v =>
      rw [hview] at h
      rcases List.mem_cons.mp h with rfl | h
      · exact ⟨st, List.mem_cons_self .., hview⟩
      · obtain ⟨st', hst', hview'⟩ := ih h
        exact ⟨st', List.mem_cons_of_mem st hst', hview'⟩

theorem map_number_openingsFrom (n : Nat) (steps : List (Step κ)) :
    (openingsFrom n steps).map Opening.number =
      List.range' n (openingsFrom n steps).length := by
  induction steps generalizing n with
  | nil => rfl
  | cons st steps ih =>
    rw [openingsFrom]
    split
    · rw [List.map_cons, ih, List.length_cons, List.range'_succ]
    · exact ih n

theorem map_number_openings (steps : List (Step κ)) :
    (openings steps).map Opening.number = List.range (openings steps).length := by
  rw [openings, map_number_openingsFrom, List.range_eq_range']

theorem nodup_map_number_openings (steps : List (Step κ)) :
    ((openings steps).map Opening.number).Nodup := by
  rw [map_number_openings]
  exact List.nodup_range

theorem eq_of_number_eq {steps : List (Step κ)} {o o' : Opening κ} (h : o ∈ openings steps)
    (h' : o' ∈ openings steps) (hn : o.number = o'.number) : o = o' :=
  List.inj_on_of_nodup_map (nodup_map_number_openings steps) h h' hn

/-! ## Scopes that are held -/

section Held

variable {α : Type} (content : View → Option α)

/-- The scope of an opening while its guard is held: its number, and what `content` makes of what
was opened. Without content it could not be opened. -/
def Opening.scope? (o : Opening κ) : Option (Nat × α) :=
  if o.dropped then none else (content o.view).map (o.number, ·)

/-- The scopes whose guards are held, in the order of their opening. -/
def heldScopes (steps : List (Step κ)) : List (Nat × α) :=
  (openings steps).filterMap (Opening.scope? content)

variable {content}

theorem Opening.fst_eq_of_scope?_eq_some {o : Opening κ} {scope : Nat × α}
    (h : o.scope? content = some scope) : scope.1 = o.number := by
  rw [Opening.scope?] at h
  split at h
  · cases h
  · obtain ⟨a, -, rfl⟩ := Option.map_eq_some_iff.mp h
    rfl

/-- What is made of the held scopes, if it is made of each view that is opened. -/
theorem heldScopes_eq_map {β : Type} {content' : View → Option β} {f : α → β}
    {steps : List (Step κ)}
    (h : ∀ st ∈ steps, ∀ v, st.view? = some v → content' v = (content v).map f) :
    heldScopes content' steps =
      (heldScopes content steps).map fun scope => (scope.1, f scope.2) := by
  rw [heldScopes, heldScopes, List.map_filterMap]
  refine List.filterMap_congr fun o ho => ?_
  obtain ⟨st, hst, hview⟩ := exists_step_of_mem_openingsFrom ho
  rw [Opening.scope?, Opening.scope?, h st hst o.view hview]
  cases o.dropped <;> cases content o.view <;> rfl

variable (content) (steps : List (Step κ))

theorem pairwise_heldScopes :
    (heldScopes content steps).Pairwise fun a b => a.1 < b.1 := by
  have hnumbers : (openings steps).Pairwise fun a b => a.number < b.number := by
    rw [← List.pairwise_map (R := (· < ·)), map_number_openings]
    exact List.pairwise_lt_range
  refine List.Pairwise.filterMap _ ?_ hnumbers
  intro o o' hlt a ha b hb
  rw [Opening.fst_eq_of_scope?_eq_some ha, Opening.fst_eq_of_scope?_eq_some hb]
  exact hlt

theorem heldScopes_append_enter (v : View) :
    heldScopes content (steps ++ [.enter v]) =
      heldScopes content steps ++ ((content v).map ((openings steps).length, ·)).toList := by
  refine (filterMap_openings_append_enter ?_ steps).trans ?_
  · intro o
    simp [Opening.scope?, Step.leaves]
  · simp [heldScopes, Opening.scope?, Opening.dropped]

/-- Any step but an opening ends the scopes whose guards it drops, and no others. -/
theorem heldScopes_append {st : Step κ} (h : st.view? = none) :
    heldScopes content (steps ++ [st]) =
      (heldScopes content steps).filter fun scope => !st.leaves scope.1 := by
  rw [heldScopes, filterMap_openings_append _ steps h, heldScopes, List.filter_filterMap]
  apply List.filterMap_congr
  intro o _
  rw [Opening.scope?, Opening.scope?, Opening.dropped_followedBy, List.any_cons, List.any_nil]
  cases o.dropped with
  | true => rfl
  | false =>
    cases hc : content o.view <;> cases hl : st.leaves o.number <;> simp [hc, hl, Option.filter]

theorem heldScopes_append_leave (number : Nat) :
    heldScopes content (steps ++ [.leave number]) =
      (heldScopes content steps).filter fun scope => scope.1 ≠ number := by
  rw [heldScopes_append content steps rfl]
  congr 1
  funext scope
  simp [Step.leaves]

theorem heldScopes_append_of_not_leaves {st : Step κ} (h : st.view? = none)
    (hl : ∀ number, st.leaves number = false) :
    heldScopes content (steps ++ [st]) = heldScopes content steps := by
  rw [heldScopes_append content steps h]
  simp [hl]

end Held

end StructuredLog
