import Mathlib.Data.List.DropRight
import StructuredLog.Proofs.Message.Captured
import StructuredLog.Proofs.Sink.MemoryScopes

/-!
# The entries that are remembered

A sink that remembers holds one entry for each call since it was cleared last, if the level of the
call was enabled and everything in it could be displayed. It counts all calls, these or others.
-/

namespace StructuredLog

/-! ## Steps -/

/-- What is remembered of an entry, if everything in it can be displayed. -/
def Entry.recorded? (rendering : Bool) (e : Entry) : Option CapturedEntry :=
  if e.fails rendering then none else some (e.captured rendering)

namespace Step

theorem eq_clear_of_clears {st : Step Memory.Operation} (h : st.clears = true) :
    st = .own .clear := by
  cases st with
  | own operation => rfl
  | _ => cases h

/-- Does the step ask whether a level is enabled? -/
def asks {κ : Type} : Step κ → Bool
  | .call .. => true
  | _ => false

/-- The entry that is remembered of a step. -/
def recorded? {κ : Type} (minLevel : Option Level) (rendering : Bool) :
    Step κ → Option CapturedEntry
  | .log e => e.recorded? rendering
  | .call m args error =>
    if minLevel.any (· ≤ m.level) then (m.entry args error).recorded? rendering else none
  | _ => none

end Step

namespace Memory

/-- The steps behind the last clearing. -/
def sinceClear (steps : List (Step Operation)) : List (Step Operation) :=
  steps.rtakeWhile fun st => !st.clears

theorem sinceClear_append_of_not_clears (steps : List (Step Operation)) {st : Step Operation}
    (h : st.clears = false) : sinceClear (steps ++ [st]) = sinceClear steps ++ [st] :=
  List.rtakeWhile_concat_pos _ _ _ (by simpa using h)

theorem sinceClear_append_clear (steps : List (Step Operation)) :
    sinceClear (steps ++ [.own .clear]) = [] :=
  List.rtakeWhile_concat_neg _ _ _ (by simp [Step.clears])

theorem filterMap_sinceClear_append {β : Type} (f : Step Operation → Option β)
    (steps : List (Step Operation)) {st : Step Operation} (h : st.clears = false) :
    (sinceClear (steps ++ [st])).filterMap f =
      (sinceClear steps).filterMap f ++ (f st).toList := by
  rw [sinceClear_append_of_not_clears steps h, List.filterMap_append]
  cases hf : f st <;> simp [hf]

/-! ### One step -/

theorem log_eq (e : Entry) (s : Memory) :
    (Sink.log e s).1.result = (e.recorded? s.rendering).map (fun _ => ()) ∧
      (Sink.log e s).2 = { s with
        entries := s.entries ++ (e.recorded? s.rendering).toList } := by
  show (Memory.log e s).1.result = _ ∧ (Memory.log e s).2 = _
  rw [Memory.log, Entry.capture_result, Entry.recorded?]
  cases e.fails s.rendering <;> simp

theorem message_log_eq {arity : Nat} (m : Message arity) (args : Vector Value arity)
    (error : Option Displayed) (s : Memory) :
    ((m.log args error s).1.result = none ↔ s.minLevel.any (· ≤ m.level) = true ∧
      (m.entry args error).fails s.rendering = true) ∧
    (m.log args error s).2 = { s with
      queries := s.queries + 1
      entries := s.entries ++
        ((.call m args error : Step Operation).recorded? s.minLevel s.rendering).toList } := by
  have hask : Sink.isEnabled m.level s =
      (s.minLevel.any (· ≤ m.level), { s with queries := s.queries + 1 }) := rfl
  rw [Message.log, hask, Step.recorded?]
  cases s.minLevel.any (· ≤ m.level) with
  | false => simp
  | true =>
    obtain ⟨hresult, hsink⟩ := log_eq (m.entry args error) { s with queries := s.queries + 1 }
    simp only [if_true, true_and]
    rw [hresult, hsink]
    exact ⟨by simp [Entry.recorded?], rfl⟩

/-- What a step changes beside the scopes, unless it clears. -/
theorem sink_step (s : Session Memory) {st : Step Operation} (h : st.clears = false) :
    let sink := (s.step st).sink
    (sink.minLevel, sink.rendering, sink.queries, sink.entries) =
      (s.sink.minLevel, s.sink.rendering, s.sink.queries + [st].countP Step.asks,
        s.sink.entries ++ (st.recorded? s.sink.minLevel s.sink.rendering).toList) := by
  intro sink
  cases st with
  | log e =>
    have hsink : sink = _ := (log_eq e s.sink).2
    rw [hsink]
    rfl
  | call m args error =>
    have hsink : sink = _ := (message_log_eq m args error s.sink).2
    rw [hsink]
    rfl
  | enter v =>
    have hsink : sink = _ := beginScope_snd v s.sink
    rw [hsink]
    simp [Step.asks, Step.recorded?]
  | leave number =>
    let shown (s : Memory) := (s.minLevel, s.rendering, s.queries, s.entries)
    have hsink : shown sink = shown s.sink := s.step_leave_keeps (fun _ _ => rfl) number
    refine hsink.trans ?_
    simp [shown, Step.asks, Step.recorded?]
  | own operation => cases h

/-! ### Runs -/

/-- The sink has counted the calls of its run and remembers their entries. -/
structure Recalls (minLevel : Option Level) (rendering : Bool) (s : Memory)
    (steps : List (Step Operation)) : Prop where
  minLevel_eq : s.minLevel = minLevel
  rendering_eq : s.rendering = rendering
  queries_eq : s.queries = steps.countP Step.asks
  entries_eq : s.entries = (sinceClear steps).filterMap (Step.recorded? minLevel rendering)

variable {minLevel : Option Level} {rendering : Bool} {s : Session Memory}
  {steps : List (Step Operation)}

theorem Recalls.step (h : Recalls minLevel rendering s.sink steps) (st : Step Operation) :
    Recalls minLevel rendering (s.step st).sink (steps ++ [st]) := by
  cases hclears : st.clears with
  | false =>
    have hsink := sink_step s hclears
    simp only [Prod.mk.injEq, h.minLevel_eq, h.rendering_eq] at hsink
    obtain ⟨hlevel, hrendering, hqueries, hentries⟩ := hsink
    refine ⟨hlevel, hrendering, ?_, ?_⟩
    · rw [hqueries, h.queries_eq, List.countP_append]
    · rw [hentries, h.entries_eq, filterMap_sinceClear_append _ steps hclears]
  | true =>
    obtain rfl := Step.eq_clear_of_clears hclears
    refine ⟨h.minLevel_eq, h.rendering_eq, ?_, ?_⟩
    · rw [List.countP_append, ← h.queries_eq]
      rfl
    · rw [sinceClear_append_clear]
      rfl

theorem recalls_run (minLevel : Option Level) (rendering : Bool) (steps : List (Step Operation)) :
    Recalls minLevel rendering (Session.run { sink := { minLevel, rendering } } steps).sink
      steps := by
  induction steps using List.reverseRecOn with
  | nil => exact ⟨rfl, rfl, rfl, rfl⟩
  | append_singleton steps st ih =>
    rw [Session.run_append_singleton]
    exact ih.step st

theorem recorded?_call {arity : Nat} (m : Message arity) (args : Vector Value arity)
    (error : Option Displayed) (minLevel : Option Level) (rendering : Bool) :
    (Step.call m args error : Step Operation).recorded? minLevel rendering =
      if minLevel.any (· ≤ m.level) = true ∧ (m.entry args error).fails rendering = false then
        some {
          level := m.level
          event := m.event
          pairs := m.capturedPairs args
          message := if rendering then some (Rendering.text (m.rendering args)) else none
          error := error.map Displayed.text }
      else none := by
  rw [Step.recorded?, Entry.recorded?, Entry.captured, ← m.captured_state args]
  cases minLevel.any (· ≤ m.level) with
  | false => simp
  | true =>
    cases (m.entry args error).fails rendering with
    | false => rfl
    | true => simp

/-- After any run there is one entry for each call since the last clearing that was enabled and gave
a result, in the order of the calls, and the queries count all calls. An enabled call gives no
result exactly if an argument, its message or its error cannot be displayed. -/
theorem entries_of_run (minLevel : Option Level) (rendering : Bool) (steps : List (Step Operation)) :
    let s := Session.run { sink := ({ minLevel, rendering } : Memory) } steps
    s.sink.entries = (sinceClear steps).filterMap (Step.recorded? minLevel rendering) ∧
    s.sink.queries = steps.countP Step.asks ∧
    ∀ {arity : Nat} (m : Message arity) (args : Vector Value arity) (error : Option Displayed),
      ((m.log args error s.sink).1.result = none ↔ minLevel.any (· ≤ m.level) = true ∧
        ((∃ v ∈ args.toList, v.fails = true) ∨
          (rendering = true ∧ Rendering.completes (m.rendering args) = false) ∨
          ∃ object ∈ error, object.fails = true)) ∧
      (Step.call m args error : Step Operation).recorded? minLevel rendering =
        if minLevel.any (· ≤ m.level) = true ∧ (m.log args error s.sink).1.result ≠ none then
          some {
            level := m.level
            event := m.event
            pairs := m.capturedPairs args
            message := if rendering then some (Rendering.text (m.rendering args)) else none
            error := error.map Displayed.text }
        else none := by
  intro s
  have h : Recalls minLevel rendering s.sink steps := recalls_run minLevel rendering steps
  refine ⟨h.entries_eq, h.queries_eq, ?_⟩
  intro arity m args error
  have hresult := (message_log_eq m args error s.sink).1
  rw [h.minLevel_eq, h.rendering_eq] at hresult
  refine ⟨?_, ?_⟩
  · rw [hresult, Message.fails_entry_iff]
  · rw [recorded?_call]
    refine if_congr (and_congr_right fun hlevel => ?_) rfl rfl
    rw [ne_eq, hresult, not_and, Bool.not_eq_true]
    exact ⟨fun hfails _ => hfails, fun hfails => hfails hlevel⟩

end Memory

end StructuredLog
