import Mathlib.Data.List.Induction
import StructuredLog.Proofs.Entry.Captured
import StructuredLog.Proofs.Sink.Run

/-!
# The scopes that are remembered

What a sink that remembers shows of scopes is read off the openings of its run: it keeps those that
could be captured and were not forgotten since, and a scope is closed once its guard is dropped.
-/

namespace StructuredLog

/-! ## Capturing -/

/-- A view cannot be captured exactly if one of its values cannot be displayed. -/
theorem View.capture_result_eq_none_iff (v : View) :
    v.capture.result = none ↔ ∃ pair ∈ v.pairs, pair.value.fails = true := by
  rw [capture_result, ← List.any_eq_true, ← fails]
  cases v.fails <;> simp

/-! ## Runs of the sink -/

namespace Memory

/-- What can be done with this sink beside what can be done with all of them. -/
inductive Operation
  | clear

instance : Sink.Operations Operation Memory where
  operate
    | .clear, s => s.clear

/-- The pairs with which a scope is remembered, if they can be displayed. -/
def scopeContent (v : View) : Option (List CapturedPair) :=
  v.capture.result

end Memory

def Step.clears : Step Memory.Operation → Bool
  | .own .clear => true
  | _ => false

namespace Opening

/-- Has everything been forgotten after the scope was opened? -/
def forgotten (o : Opening Memory.Operation) : Bool :=
  o.later.any Step.clears

@[simp] theorem forgotten_followedBy (steps : List (Step Memory.Operation))
    (o : Opening Memory.Operation) :
    (o.followedBy steps).forgotten = (o.forgotten || steps.any Step.clears) :=
  List.any_append

/-- What is remembered of the scope. -/
def remembered? (o : Opening Memory.Operation) : Option CapturedScope :=
  if o.forgotten then none else (Memory.scopeContent o.view).map (⟨·, o.dropped⟩)

/-- What is remembered of the scope, under its number. -/
def entry? (o : Opening Memory.Operation) : Option (Nat × CapturedScope) :=
  o.remembered?.map (o.number, ·)

end Opening

/-- The scopes that are remembered after a run, in the order of their opening. -/
def rememberedScopes (steps : List (Step Memory.Operation)) : List CapturedScope :=
  (openings steps).filterMap Opening.remembered?

namespace Memory

/-! ## Scopes with their numbers -/

/-- The remembered scopes, each under its number. -/
def numberedScopes (steps : List (Step Operation)) : List (Nat × CapturedScope) :=
  (openings steps).filterMap Opening.entry?

theorem map_snd_numberedScopes (steps : List (Step Operation)) :
    (numberedScopes steps).map Prod.snd = rememberedScopes steps := by
  rw [numberedScopes, rememberedScopes, List.map_filterMap]
  apply List.filterMap_congr
  intro o _
  rw [Opening.entry?]
  cases o.remembered? <;> rfl

/-- Marks the scope with this number as closed. -/
def mark (number : Nat) (entry : Nat × CapturedScope) : Nat × CapturedScope :=
  (entry.1, if entry.1 = number then { entry.2 with closed := true } else entry.2)

theorem numberedScopes_append_enter (steps : List (Step Operation)) (v : View) :
    numberedScopes (steps ++ [.enter v]) = numberedScopes steps ++
      ((scopeContent v).map fun pairs => ((openings steps).length, ⟨pairs, false⟩)).toList := by
  refine (filterMap_openings_append_enter ?_ steps).trans ?_
  · intro o
    simp [Opening.entry?, Opening.remembered?, Step.leaves, Step.clears]
  · simp [numberedScopes, Opening.entry?, Opening.remembered?, Opening.forgotten,
      Opening.dropped, Function.comp_def]

theorem numberedScopes_append_leave (steps : List (Step Operation)) (number : Nat) :
    numberedScopes (steps ++ [.leave number]) = (numberedScopes steps).map (mark number) := by
  rw [numberedScopes, filterMap_openings_append _ steps rfl, numberedScopes, List.map_filterMap]
  apply List.filterMap_congr
  intro o _
  rw [Opening.entry?, Opening.entry?, Opening.remembered?, Opening.remembered?]
  cases hf : o.forgotten with
  | true => simp [hf]
  | false =>
    cases hc : scopeContent o.view with
    | none => simp [hc]
    | some pairs =>
      by_cases hn : o.number = number <;>
        simp [hf, hc, mark, hn, Step.clears, Step.leaves]

theorem numberedScopes_append_clear (steps : List (Step Operation)) :
    numberedScopes (steps ++ [.own .clear]) = [] := by
  rw [numberedScopes, filterMap_openings_append _ steps rfl, List.filterMap_eq_nil_iff]
  intro o _
  simp [Opening.entry?, Opening.remembered?, Step.clears]

theorem numberedScopes_append_of_not_leaves (steps : List (Step Operation)) {st : Step Operation}
    (h : st.view? = none) (hl : ∀ number, st.leaves number = false) (hc : st.clears = false) :
    numberedScopes (steps ++ [st]) = numberedScopes steps := by
  rw [numberedScopes, filterMap_openings_append _ steps h, numberedScopes]
  apply List.filterMap_congr
  intro o _
  simp [Opening.entry?, Opening.remembered?, hl, hc]

/-! ## The sink and its history -/

/-- The sink shows of scopes what its run says, and its caller holds the guards that close them. -/
structure Reflects (s : Session Memory) (steps : List (Step Operation)) : Prop where
  openings_eq : s.openings = (openings steps).length
  nextScope_eq : s.sink.nextScope = (openings steps).length
  guards_eq : s.guards =
    (heldScopes scopeContent steps).map fun scope => (scope.1, .closes scope.1)
  scopeStore_eq : s.sink.scopeStore = numberedScopes steps

theorem loggingKeeps_scopes : Sink.LoggingKeeps fun s : Memory => (s.nextScope, s.scopeStore) where
  isEnabled _ _ := rfl
  log e s := by
    show (fun s : Memory => (s.nextScope, s.scopeStore)) (Memory.log e s).2 = _
    rw [Memory.log]
    split <;> rfl

theorem beginScope_result (v : View) (s : Memory) :
    (Sink.beginScope v s).1.result = (scopeContent v).map fun _ => .closes s.nextScope := by
  show (Memory.beginScope v s).1.result = _
  rw [Memory.beginScope, scopeContent]
  cases v.capture.result <;> rfl

theorem beginScope_snd (v : View) (s : Memory) :
    (Sink.beginScope v s).2 = { s with
      nextScope := s.nextScope + 1
      scopeStore := s.scopeStore ++
        ((scopeContent v).map fun pairs => (s.nextScope, ⟨pairs, false⟩)).toList } := by
  show (Memory.beginScope v s).2 = _
  rw [Memory.beginScope, scopeContent]
  cases v.capture.result <;> simp

/-- Closing a number under which only closed scopes are stored changes nothing. -/
theorem endScope_eq_self {number : Nat} {s : Memory}
    (h : ∀ entry ∈ s.scopeStore, entry.1 = number → entry.2.closed = true) :
    Sink.endScope number s = s := by
  have hstore : s.scopeStore.map (mark number) = s.scopeStore := by
    refine (List.map_congr_left ?_).trans (List.map_id _)
    rintro ⟨k, pairs, closed⟩ hentry
    rw [mark]
    split
    · rename_i hk
      obtain rfl : closed = true := h _ hentry hk
      rfl
    · rfl
  show { s with scopeStore := s.scopeStore.map (mark number) } = s
  rw [hstore]

/-- A scope that is remembered as open has its guard held. -/
theorem mem_heldScopes_of_open {steps : List (Step Operation)} {entry : Nat × CapturedScope}
    (hentry : entry ∈ numberedScopes steps) (hopen : entry.2.closed = false) :
    (entry.1, entry.2.pairs) ∈ heldScopes scopeContent steps := by
  obtain ⟨o, ho, hentry⟩ := List.mem_filterMap.mp hentry
  refine List.mem_filterMap.mpr ⟨o, ho, ?_⟩
  obtain ⟨scope, hscope, rfl⟩ := Option.map_eq_some_iff.mp hentry
  rw [Opening.remembered?] at hscope
  split at hscope
  · cases hscope
  · obtain ⟨pairs, hpairs, rfl⟩ := Option.map_eq_some_iff.mp hscope
    have hdropped : o.dropped = false := hopen
    simp [Opening.scope?, hdropped, hpairs]

/-! ### Steps -/

/-- A step that neither opens nor drops nor clears changes nothing of the scopes. -/
theorem Reflects.append {s : Session Memory} {steps : List (Step Operation)}
    (h : Reflects s steps) {sink : Memory} {st : Step Operation} (hview : st.view? = none)
    (hleaves : ∀ number, st.leaves number = false) (hclears : st.clears = false)
    (hsink : (sink.nextScope, sink.scopeStore) = (s.sink.nextScope, s.sink.scopeStore)) :
    Reflects { s with sink } (steps ++ [st]) := by
  obtain ⟨hnext, hstore⟩ := Prod.mk.inj hsink
  refine ⟨?_, ?_, ?_, ?_⟩
  · rw [length_openings_append steps hview, ← h.openings_eq]
  · rw [length_openings_append steps hview, ← h.nextScope_eq, ← hnext]
  · rw [heldScopes_append_of_not_leaves _ _ hview hleaves, ← h.guards_eq]
  · rw [numberedScopes_append_of_not_leaves _ hview hleaves hclears, ← h.scopeStore_eq, ← hstore]

theorem Reflects.enter {s : Session Memory} {steps : List (Step Operation)}
    (h : Reflects s steps) (v : View) :
    Reflects (s.step (Step.enter v : Step Operation)) (steps ++ [.enter v]) := by
  refine ⟨?_, ?_, ?_, ?_⟩
  · show s.openings + 1 = _
    rw [length_openings_append_enter, h.openings_eq]
  · show (Sink.beginScope v s.sink).2.nextScope = _
    rw [beginScope_snd, length_openings_append_enter, h.nextScope_eq]
  · show s.guards ++ ((Sink.beginScope v s.sink).1.result.map (s.openings, ·)).toList = _
    rw [beginScope_result, heldScopes_append_enter, List.map_append, h.guards_eq, h.openings_eq,
      h.nextScope_eq]
    cases scopeContent v <;> rfl
  · show (Sink.beginScope v s.sink).2.scopeStore = _
    rw [beginScope_snd, numberedScopes_append_enter, h.scopeStore_eq, h.nextScope_eq]

/-- Whether the guard is held or not: if not, all stored scopes of its number are closed. -/
theorem Reflects.step_leave {s : Session Memory} {steps : List (Step Operation)}
    (h : Reflects s steps) (number : Nat) :
    s.step (Step.leave number : Step Operation) = { s with
      sink := Sink.endScope number s.sink
      guards := s.guards.filter fun held => held.1 ≠ number } := by
  rw [Session.step]
  cases hfind : s.guards.find? fun held => held.1 = number with
  | some found =>
    obtain ⟨k, guard⟩ := found
    obtain rfl : k = number := by simpa using List.find?_some hfind
    have hmem := List.mem_of_find?_eq_some hfind
    rw [h.guards_eq] at hmem
    obtain ⟨scope, -, hscope⟩ := List.mem_map.mp hmem
    cases hscope
    rfl
  | none =>
    rw [List.find?_eq_none] at hfind
    have hguards : s.guards.filter (fun held => held.1 ≠ number) = s.guards := by
      rw [List.filter_eq_self]
      simpa using hfind
    have hclosed : ∀ entry ∈ s.sink.scopeStore, entry.1 = number → entry.2.closed = true := by
      intro entry hentry hn
      by_contra hopen
      rw [h.scopeStore_eq] at hentry
      have hheld := mem_heldScopes_of_open hentry (by simpa using hopen)
      rw [h.guards_eq] at hfind
      simpa [hn] using hfind _ (List.mem_map_of_mem hheld)
    rw [hguards, endScope_eq_self hclosed]

theorem Reflects.leave {s : Session Memory} {steps : List (Step Operation)}
    (h : Reflects s steps) (number : Nat) :
    Reflects (s.step (Step.leave number : Step Operation)) (steps ++ [.leave number]) := by
  have hlength : (openings (steps ++ [.leave number])).length = (openings steps).length :=
    length_openings_append steps rfl
  rw [h.step_leave]
  refine ⟨?_, ?_, ?_, ?_⟩
  · rw [hlength, ← h.openings_eq]
  · rw [hlength, ← h.nextScope_eq]
    rfl
  · rw [heldScopes_append_leave, h.guards_eq, List.filter_map]
    rfl
  · rw [numberedScopes_append_leave, ← h.scopeStore_eq]
    rfl

theorem Reflects.clear {s : Session Memory} {steps : List (Step Operation)}
    (h : Reflects s steps) :
    Reflects (s.step (Step.own .clear : Step Operation)) (steps ++ [.own .clear]) := by
  have hview : Step.view? (.own .clear : Step Operation) = none := rfl
  refine ⟨?_, ?_, ?_, ?_⟩
  · rw [length_openings_append steps hview, ← h.openings_eq]
    rfl
  · rw [length_openings_append steps hview, ← h.nextScope_eq]
    rfl
  · rw [heldScopes_append_of_not_leaves _ _ hview fun _ => rfl, ← h.guards_eq]
    rfl
  · rw [numberedScopes_append_clear]
    rfl

theorem Reflects.step {s : Session Memory} {steps : List (Step Operation)}
    (h : Reflects s steps) (st : Step Operation) : Reflects (s.step st) (steps ++ [st]) := by
  cases st with
  | log e => exact h.append rfl (fun _ => rfl) rfl (loggingKeeps_scopes.log e s.sink)
  | call m args error =>
    exact h.append rfl (fun _ => rfl) rfl (loggingKeeps_scopes.message_log m args error s.sink)
  | enter v => exact h.enter v
  | leave number => exact h.leave number
  | own operation => exact h.clear

/-! ### Runs -/

theorem reflects_run (minLevel : Option Level) (rendering : Bool) (steps : List (Step Operation)) :
    Reflects (Session.run { sink := { minLevel, rendering } } steps) steps := by
  induction steps using List.reverseRecOn with
  | nil => exact ⟨rfl, rfl, rfl, rfl⟩
  | append_singleton steps st ih =>
    rw [Session.run_append_singleton]
    exact ih.step st

/-- Dropping the guard of a scope that has been forgotten changes nothing. -/
theorem Reflects.sink_leave_of_forgotten {s : Session Memory} {steps : List (Step Operation)}
    (h : Reflects s steps) {o : Opening Operation} (ho : o ∈ openings steps)
    (hforgotten : o.forgotten = true) :
    (s.step (Step.leave o.number : Step Operation)).sink = s.sink := by
  rw [h.step_leave]
  apply endScope_eq_self
  intro entry hentry hn
  rw [h.scopeStore_eq] at hentry
  obtain ⟨o', ho', hentry⟩ := List.mem_filterMap.mp hentry
  obtain ⟨scope, hscope, rfl⟩ := Option.map_eq_some_iff.mp hentry
  obtain rfl := eq_of_number_eq ho' ho hn
  simp [Opening.remembered?, hforgotten] at hscope

/-- After any run, the scopes that are shown are those that were opened and not forgotten since, in
the order of their opening, each with what was captured of it, and closed exactly if its own guard
has been dropped. A scope cannot be opened exactly if a value of it cannot be displayed. -/
theorem scopes_of_run (minLevel : Option Level) (rendering : Bool) (steps : List (Step Operation)) :
    let s := Session.run { sink := ({ minLevel, rendering } : Memory) } steps
    s.sink.scopes = rememberedScopes steps ∧
    s.sink.openScopes = (rememberedScopes steps).filter (fun scope => !scope.closed) ∧
    (∀ v, (Sink.beginScope v s.sink).1.result = none ↔
      ∃ pair ∈ v.pairs, pair.value.fails = true) ∧
    ∀ o ∈ openings steps, o.forgotten = true →
      (s.step (Step.leave o.number : Step Operation)).sink = s.sink := by
  intro s
  have h : Reflects s steps := reflects_run minLevel rendering steps
  have hscopes : s.sink.scopes = rememberedScopes steps := by
    rw [scopes, h.scopeStore_eq, map_snd_numberedScopes]
  refine ⟨hscopes, ?_, ?_, ?_⟩
  · rw [openScopes, hscopes]
  · intro v
    rw [beginScope_result, Option.map_eq_none_iff, scopeContent, v.capture_result_eq_none_iff]
  · intro o ho hforgotten
    exact h.sink_leave_of_forgotten ho hforgotten

/-- A scope is opened and forgotten with its guard held; an opening fails; another one with the
pairs of the first succeeds. -/
theorem scopes_of_run_forgotten :
    let tag : View := .ofList [⟨"tag", .str "a"⟩]
    let failing : View := .ofList [⟨"tag", .display ⟨["a"], true⟩⟩]
    let steps : List (Step Operation) := [.enter tag, .own .clear, .enter failing, .enter tag]
    let s := Session.run { sink := ({ minLevel := none, rendering := true } : Memory) } steps
    s.sink.scopes = [⟨[⟨"tag", .str "a"⟩], false⟩] ∧
    (Sink.beginScope failing s.sink).1.result = none ∧
    (s.step (Step.leave 0 : Step Operation)).sink = s.sink := by
  intro tag failing steps s
  obtain ⟨hscopes, -, hfails, hforgotten⟩ := scopes_of_run none true steps
  have hshown : rememberedScopes steps = [⟨[⟨"tag", .str "a"⟩], false⟩] := by
    simp [steps, tag, failing, rememberedScopes, openings, openingsFrom, Step.view?,
      Opening.remembered?, Opening.forgotten, Opening.dropped, Step.clears, Step.leaves,
      scopeContent, View.capture, Observed.each, Value.capture, Rendering.toText,
      Displayed.rendering, Rendering.completes]
  refine ⟨?_, ?_, ?_⟩
  · rw [hscopes, hshown]
  · rw [hfails]
    refine ⟨⟨"tag", .display ⟨["a"], true⟩⟩, ?_, rfl⟩
    simp [failing]
  · exact hforgotten ⟨0, tag, steps.tail⟩ (List.mem_cons_self ..) rfl

end Memory

end StructuredLog
