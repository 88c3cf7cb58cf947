import StructuredLog.Proofs.Sink.MemoryEntries
import StructuredLog.Proofs.Sink.SparedSteps
import StructuredLog.Proofs.Sink.TruncatedLines

/-!
# Steps that fail

A value, a message or an error may fail when it is displayed, after it has written anything. The
step is given up then, or its line is left out, and that is all: a run shows the same, and all other
steps are answered alike, if the failed ones are taken out of it.
-/

namespace StructuredLog

section Failures

variable {σ κ β : Type} [Sink σ] [Sink.Operations κ σ]

/-- In any run from `init` on, the steps that fail make no difference to what is `shown`, nor to the
answers of the others. A failed step does not return if `abandons`; other steps return unless the
device gives up. -/
structure FailuresVanish (failed : Step κ → Bool) (abandons : Bool)
    (gaveUp : Session σ → Step κ → Prop) (shown : σ → β) (init : σ) : Prop where
  result_eq_none_iff : ∀ (steps : List (Step κ)) (st : Step κ),
    let s := Session.run { sink := init } steps
    (s.answer st).result = none ↔ (abandons = true ∧ failed st = true) ∨ gaveUp s st
  /-- In particular, no scope is opened. -/
  step_of_failed : ∀ (steps : List (Step κ)) (st : Step κ), failed st = true →
    let s := Session.run { sink := init } steps
    shown (s.step st).sink = shown s.sink ∧ (s.step st).guards = s.guards
  /-- Nothing else is left out than the steps that failed and guards that are not held. -/
  left_out : ∀ (steps : List (Step κ)) (st : Step κ), st.spared? failed steps = none →
    failed st = true ∨
      ∃ number, st = .leave number ∧ (Session.run { sink := init } steps).guard? number = none
  shown_spared : ∀ steps : List (Step κ),
    shown (Session.run { sink := init } (spared failed steps)).sink =
      shown (Session.run { sink := init } steps).sink
  answer_spared : ∀ (steps : List (Step κ)) (st st' : Step κ), st.spared? failed steps = some st' →
    (Session.run { sink := init } (spared failed steps)).answer st' =
      (Session.run { sink := init } steps).answer st

omit [Sink σ] in
/-- A guard is not held if there is none under its number. -/
theorem Session.guard?_eq_none {s : Session σ} {number : Nat}
    (h : number ∉ s.guards.map Prod.fst) : s.guard? number = none := by
  rw [guard?, List.find?_eq_none]
  intro held hheld
  have hne : held.1 ≠ number := fun he => h (he ▸ List.mem_map_of_mem hheld)
  simpa using hne

end Failures

/-! ## Sinks of lines -/

section Lines

variable {σ α β : Type} [Sink σ] {minLevel : σ → Level} {line : Entry → σ → Observed String}
  {device : σ → Device} {scopes : σ → OpenScopes α} {content : View → Option α} {settings : σ → β}
  {unshown : Option Unit} {shown : σ → Entry → List α → Option String} {init : σ}

/-- Does the step fail where `noLine` says which entries have no line, and `noScope` which views
cannot be opened? -/
def Step.failsFor (minLevel : Level) (noLine : Entry → Bool) (noScope : View → Bool)
    (st : Step Empty) : Bool :=
  st.entry?.any (fun e => minLevel ≤ e.level && noLine e) || st.view?.any noScope

theorem Step.failsFor_of_entry? {st : Step Empty} {e : Entry} (he : st.entry? = some e)
    (minLevel : Level) (noLine : Entry → Bool) (noScope : View → Bool) :
    st.failsFor minLevel noLine noScope = (decide (minLevel ≤ e.level) && noLine e) := by
  have hview : st.view? = none := by
    cases st with
    | enter v => cases he
    | _ => rfl
  simp [failsFor, he, hview]

/-- On a sink of lines, `noLine` tells the entries that have no line, and `noScope` the views that
cannot be opened. -/
structure Sink.LacksLines (minLevel : σ → Level) (line : Entry → σ → Observed String)
    (device : σ → Device) (scopes : σ → OpenScopes α) (content : View → Option α) (settings : σ → β)
    (unshown : Option Unit) (shown : σ → Entry → List α → Option String) (noLine : Entry → Bool)
    (noScope : View → Bool) (init : σ) : Prop where
  writesLines : WritesLines minLevel line device scopes content settings unshown
  attaches : AttachesHeldScopes minLevel line device scopes content shown init
  shown_eq_none_iff : ∀ e scopes, shown init e scopes = none ↔ noLine e = true
  content_eq_none_iff : ∀ v, content v = none ↔ noScope v = true
  /-- If an entry without line can be answered, any scope can be opened. -/
  unshown_eq_none : ∀ v, noScope v = true → unshown = none

namespace Sink.LacksLines

variable {noLine : Entry → Bool} {noScope : View → Bool}
  (h : LacksLines minLevel line device scopes content settings unshown shown noLine noScope init)

include h

theorem minLevel_run (steps : List (Step Empty)) :
    minLevel (Session.run { sink := init } steps).sink = minLevel init :=
  h.writesLines.minLevel_congr (h.writesLines.keeps_settings.run { sink := init } steps)

theorem line_eq_none_iff (steps : List (Step Empty)) (e : Entry) :
    (line e (Session.run { sink := init } steps).sink).result = none ↔ noLine e = true := by
  rw [h.attaches.line_eq, h.shown_eq_none_iff]

theorem content_eq_none_of_fails (v : View)
    (hfails : Step.failsFor (minLevel init) noLine noScope (.enter v) = true) :
    content v = none := by
  rw [h.content_eq_none_iff]
  simpa [Step.failsFor, Step.entry?, Step.view?] using hfails

/-! ### One step -/

theorem result_eq_none_iff (steps : List (Step Empty)) (st : Step Empty) :
    let s := Session.run { sink := init } steps
    (s.answer st).result = none ↔
      (unshown.isNone = true ∧ st.failsFor (minLevel init) noLine noScope = true) ∨
        .giveUp ∈ s.responses device st := by
  intro s
  rw [h.writesLines.offersLines.responses_eq, Session.delivery?]
  cases he : st.entry? with
  | some e =>
    have hlevel : minLevel s.sink = minLevel init := h.minLevel_run steps
    have hline : (line e s.sink).result = none ↔ noLine e = true := h.line_eq_none_iff steps e
    rw [h.writesLines.answer_of_entry? s he, Step.failsFor_of_entry? he, hlevel,
      Observed.map_result, Option.map_eq_none_iff, Option.bind_some]
    by_cases hle : minLevel init ≤ e.level
    · cases htext : (line e s.sink).result with
      | none => simp [hle, Device.answer_of_result_eq_none htext, hline.mp htext]
      | some text =>
        have hshown : noLine e = false := by simpa [htext] using hline
        simp [hle, hshown, Device.answer_of_result_eq_some htext,
          Device.writeAll_fst_eq_gaveUp_iff]
    · simp [hle]
  | none =>
    cases st with
    | enter v =>
      have hresult : (s.answer (.enter v : Step Empty)).result = none ↔ noScope v = true := by
        rw [Session.answer, Observed.map_result, h.writesLines.keepsScopes.beginScope_result,
          Option.map_eq_none_iff, Option.map_eq_none_iff, h.content_eq_none_iff]
      have hunshown := h.unshown_eq_none v
      simpa [hresult, Step.failsFor, Step.entry?, Step.view?] using hunshown
    | leave number => simp [Session.answer, Step.failsFor, Step.entry?, Step.view?]
    | log e => cases he
    | call m args error => cases he
    | own operation => exact operation.elim

theorem device_step_of_fails (steps : List (Step Empty)) {st : Step Empty}
    (hst : st.failsFor (minLevel init) noLine noScope = true) :
    let s := Session.run { sink := init } steps
    device (s.step st).sink = device s.sink := by
  intro s
  rw [h.attaches.device_step]
  cases he : st.entry? with
  | none => rfl
  | some e =>
    have hnone : noLine e = true := by
      rw [Step.failsFor_of_entry? he, Bool.and_eq_true] at hst
      exact hst.2
    rw [Device.afterEntry, (h.line_eq_none_iff steps e).mpr hnone, Device.offer, ite_self]

theorem step_of_fails (steps : List (Step Empty)) {st : Step Empty}
    (hst : st.failsFor (minLevel init) noLine noScope = true) :
    let s := Session.run { sink := init } steps
    scopes (s.step st).sink = scopes s.sink ∧ (s.step st).guards = s.guards := by
  intro s
  have hkeeps := h.writesLines.keepsScopes
  cases st with
  | log e => exact ⟨hkeeps.logging.log e s.sink, rfl⟩
  | call m args error => exact ⟨hkeeps.logging.message_log m args error s.sink, rfl⟩
  | enter v =>
    have hnone : content v = none := h.content_eq_none_of_fails v hst
    simp [Session.step, hkeeps.scopes_beginScope, hkeeps.beginScope_result, hnone]
  | leave number => cases hst
  | own operation => exact operation.elim

/-! ### Runs -/

theorem contents_spared (steps : List (Step Empty)) :
    let failed := Step.failsFor (minLevel init) noLine noScope
    (scopes (Session.run { sink := init } (spared failed steps)).sink).contents =
      (scopes (Session.run { sink := init } steps).sink).contents := by
  intro failed
  have hfollow := h.attaches.followGuards
  rw [hfollow.contents_eq, hfollow.contents_eq,
    map_snd_heldScopes_spared h.content_eq_none_of_fails]

theorem line_spared (steps : List (Step Empty)) (e : Entry) :
    let failed := Step.failsFor (minLevel init) noLine noScope
    line e (Session.run { sink := init } (spared failed steps)).sink =
      line e (Session.run { sink := init } steps).sink := by
  intro failed
  refine h.writesLines.line_congr ?_ (h.contents_spared steps) e
  rw [h.writesLines.keeps_settings.run, h.writesLines.keeps_settings.run]

/-- The device is offered the same lines. -/
theorem device_spared (steps : List (Step Empty)) :
    let failed := Step.failsFor (minLevel init) noLine noScope
    device (Session.run { sink := init } (spared failed steps)).sink =
      device (Session.run { sink := init } steps).sink := by
  intro failed
  induction steps using List.reverseRecOn with
  | nil => rfl
  | append_singleton steps st ih =>
    rw [spared_append_singleton, Session.run_append_singleton]
    cases hst : st.spared? failed steps with
    | none =>
      rw [Option.toList_none, List.append_nil, ih]
      obtain hfails | ⟨number, rfl, -⟩ := Step.spared?_eq_none hst
      · exact (h.device_step_of_fails steps hfails).symm
      · rw [h.attaches.device_step]
        rfl
    | some st' =>
      have hline (e : Entry) : line e (Session.run { sink := init } (spared failed steps)).sink =
          line e (Session.run { sink := init } steps).sink := h.line_spared steps e
      rw [Option.toList_some, Session.run_append_singleton, h.attaches.device_step,
        h.attaches.device_step, ih, Step.entry?_of_spared?_eq_some hst]
      simp only [hline]

theorem answer_spared (steps : List (Step Empty)) {st st' : Step Empty}
    (hst : st.spared? (Step.failsFor (minLevel init) noLine noScope) steps = some st') :
    let failed := Step.failsFor (minLevel init) noLine noScope
    (Session.run { sink := init } (spared failed steps)).answer st' =
      (Session.run { sink := init } steps).answer st := by
  intro failed
  obtain ⟨-, rfl⟩ | ⟨number, k, rfl, rfl⟩ := Step.spared?_eq_some hst
  · cases he : st'.entry? with
    | none => exact h.writesLines.answer_eq_of_entry?_eq_none _ _ he
    | some e =>
      rw [h.writesLines.answer_of_entry? _ he, h.writesLines.answer_of_entry? _ he,
        h.minLevel_run, h.minLevel_run, h.device_spared, h.line_spared]
  · rfl

theorem failuresVanish :
    FailuresVanish (Step.failsFor (minLevel init) noLine noScope) unshown.isNone
      (fun s st => .giveUp ∈ s.responses device st) (fun s => (device s, (scopes s).contents))
      init where
  result_eq_none_iff := h.result_eq_none_iff
  step_of_failed steps st hst := by
    obtain ⟨hscopes, hguards⟩ := h.step_of_fails steps hst
    have hcontents := congrArg OpenScopes.contents hscopes
    exact ⟨Prod.ext (h.device_step_of_fails steps hst) hcontents, hguards⟩
  left_out steps st hst := by
    refine (Step.spared?_eq_none hst).imp_right ?_
    rintro ⟨number, rfl, hnumber⟩
    refine ⟨number, rfl, Session.guard?_eq_none fun hheld => ?_⟩
    rw [h.attaches.followGuards.guards_eq] at hheld
    exact renumbered?_ne_none h.content_eq_none_of_fails hheld hnumber
  shown_spared steps := Prod.ext (h.device_spared steps) (h.contents_spared steps)
  answer_spared steps _ _ hst := h.answer_spared steps hst

end Sink.LacksLines

end Lines

namespace TextLines

theorem lacksLines (minLevel : Level) (eventIds : Bool) (device : Device) :
    Sink.LacksLines TextLines.minLevel TextLines.line TextLines.device scopes scopeContent
      (fun s => (s.minLevel, s.eventIds)) (some ()) shown Entry.textFails (fun _ => false)
      { minLevel, eventIds, device } where
  writesLines := writesLines
  attaches := attachesHeldScopes _ rfl
  shown_eq_none_iff e scopes := by simp [shown]
  content_eq_none_iff v := by simp [scopeContent]
  unshown_eq_none _ h := by cases h

end TextLines

namespace JsonLines

theorem lacksLines (minLevel : Level) (messages : Bool) (device : Device) :
    Sink.LacksLines JsonLines.minLevel JsonLines.line JsonLines.device scopes scopeContent
      (fun s => (s.minLevel, s.messages)) none shown (Entry.objectFails messages) View.fails
      { minLevel, messages, device } where
  writesLines := writesLines
  attaches := attachesHeldScopes _ rfl
  shown_eq_none_iff e scopes := by simp [shown]
  content_eq_none_iff v := by simp [scopeContent, Json.fields_result, View.fails]
  unshown_eq_none _ _ := rfl

end JsonLines

/-! ## The sink that remembers -/

namespace Memory

/-- Does the step fail? A call fails only if its level is enabled. -/
def failed (minLevel : Option Level) (rendering : Bool) : Step Operation → Bool
  | .log e => e.fails rendering
  | .call m args error => minLevel.any (· ≤ m.level) && (m.entry args error).fails rendering
  | .enter v => v.fails
  | _ => false

/-! ### One step -/

variable {minLevel : Option Level} {rendering : Bool} {steps : List (Step Operation)}

theorem answer_result_eq_none_iff {s : Session Memory}
    (h : Recalls minLevel rendering s.sink steps) (st : Step Operation) :
    (s.answer st).result = none ↔ failed minLevel rendering st = true := by
  cases st with
  | log e => simp [Session.answer, log_eq, h.rendering_eq, Entry.recorded?, failed,
      Observed.map_result]
  | call m args error =>
    rw [Session.answer, Observed.map_result, Option.map_eq_none_iff,
      (message_log_eq m args error s.sink).1, h.minLevel_eq, h.rendering_eq, failed,
      Bool.and_eq_true]
  | enter v =>
    simp [Session.answer, Observed.map_result, beginScope_result, scopeContent,
      View.capture_result, failed]
  | leave number => simp [Session.answer, failed]
  | own operation => simp [Session.answer, failed]

theorem recorded?_of_failed {st : Step Operation} (h : failed minLevel rendering st = true) :
    st.recorded? minLevel rendering = none := by
  cases st <;> simp_all [failed, Step.recorded?, Entry.recorded?]

theorem clears_of_failed {st : Step Operation} (h : failed minLevel rendering st = true) :
    st.clears = false := by
  cases st with
  | own operation => cases h
  | _ => rfl

theorem content_eq_none_of_failed (v : View)
    (h : failed minLevel rendering (.enter v) = true) : scopeContent v = none := by
  have hfails : v.fails = true := h
  rw [scopeContent, View.capture_result, if_pos hfails]

theorem step_of_failed {s : Session Memory} (h : Recalls minLevel rendering s.sink steps)
    {st : Step Operation} (hst : failed minLevel rendering st = true) :
    (s.step st).sink.entries = s.sink.entries ∧ (s.step st).sink.scopeStore = s.sink.scopeStore ∧
      (s.step st).guards = s.guards := by
  have hentries : (s.step st).sink.entries = s.sink.entries := by
    have hsink := sink_step s (clears_of_failed hst)
    simp only [Prod.mk.injEq, h.minLevel_eq, h.rendering_eq, recorded?_of_failed hst] at hsink
    simpa using hsink.2.2.2
  refine ⟨hentries, ?_⟩
  cases st with
  | log e => exact ⟨(Prod.mk.inj (loggingKeeps_scopes.log e s.sink)).2, rfl⟩
  | call m args error =>
    exact ⟨(Prod.mk.inj (loggingKeeps_scopes.message_log m args error s.sink)).2, rfl⟩
  | enter v =>
    have hnone : scopeContent v = none := content_eq_none_of_failed v hst
    simp [Session.step, beginScope_snd, beginScope_result, hnone]
  | leave number => cases hst
  | own operation => cases hst

/-! ### Runs -/

theorem entries_spared (steps : List (Step Operation)) :
    (sinceClear (spared (failed minLevel rendering) steps)).filterMap
        (Step.recorded? minLevel rendering) =
      (sinceClear steps).filterMap (Step.recorded? minLevel rendering) := by
  induction steps using List.reverseRecOn with
  | nil => rfl
  | append_singleton steps st ih =>
    rw [spared_append_singleton]
    cases hst : st.spared? (failed minLevel rendering) steps with
    | none =>
      obtain ⟨hclears, hrecorded⟩ :
          st.clears = false ∧ st.recorded? minLevel rendering = none := by
        obtain hfailed | ⟨number, rfl, -⟩ := Step.spared?_eq_none hst
        · exact ⟨clears_of_failed hfailed, recorded?_of_failed hfailed⟩
        · exact ⟨rfl, rfl⟩
      rw [filterMap_sinceClear_append _ steps hclears, hrecorded, ← ih]
      simp
    | some st' =>
      rw [Option.toList_some]
      obtain ⟨-, rfl⟩ | ⟨number, k, rfl, rfl⟩ := Step.spared?_eq_some hst
      · cases hclears : st'.clears with
        | false =>
          rw [filterMap_sinceClear_append _ _ hclears, filterMap_sinceClear_append _ _ hclears, ih]
        | true =>
          obtain rfl := Step.eq_clear_of_clears hclears
          rw [sinceClear_append_clear, sinceClear_append_clear]
      · rw [filterMap_sinceClear_append _ _ rfl, filterMap_sinceClear_append _ _ rfl, ih]
        rfl

theorem rememberedScopes_spared (steps : List (Step Operation)) :
    rememberedScopes (spared (failed minLevel rendering) steps) = rememberedScopes steps := by
  let f (t : View × Bool × Bool) : Option CapturedScope :=
    if t.2.2 then none else (scopeContent t.1).map (⟨·, t.2.1⟩)
  have hremembered : Opening.remembered? = fun o => f (o.traits Step.clears) := rfl
  rw [rememberedScopes, rememberedScopes, hremembered]
  refine filterMap_openings_spared (fun st => clears_of_failed) (fun _ => rfl) ?_ steps
  intro v hv t
  simp [f, content_eq_none_of_failed v hv]

theorem failuresVanish (minLevel : Option Level) (rendering : Bool) :
    FailuresVanish (failed minLevel rendering) true (fun _ _ => False)
      (fun s => (s.entries, s.scopes, s.openScopes)) ({ minLevel, rendering } : Memory) where
  result_eq_none_iff steps st := by
    simpa using answer_result_eq_none_iff (recalls_run minLevel rendering steps) st
  step_of_failed steps st hst := by
    obtain ⟨hentries, hstore, hguards⟩ :=
      step_of_failed (recalls_run minLevel rendering steps) hst
    simp only [hentries, openScopes, scopes, hstore, hguards, and_self]
  left_out steps st hst := by
    refine (Step.spared?_eq_none hst).imp_right ?_
    rintro ⟨number, rfl, hnumber⟩
    refine ⟨number, rfl, Session.guard?_eq_none fun hheld => ?_⟩
    rw [(reflects_run minLevel rendering steps).guards_eq, List.map_map] at hheld
    exact renumbered?_ne_none content_eq_none_of_failed hheld hnumber
  shown_spared steps := by
    have hscopes (steps : List (Step Operation)) :
        (Session.run { sink := ({ minLevel, rendering } : Memory) } steps).sink.scopes =
          rememberedScopes steps :=
      (scopes_of_run minLevel rendering steps).1
    have hentries (steps : List (Step Operation)) :=
      (recalls_run minLevel rendering steps).entries_eq
    simp only [openScopes, hscopes, rememberedScopes_spared, hentries, entries_spared]
  answer_spared steps st st' hst := by
    have hspared := recalls_run minLevel rendering (spared (failed minLevel rendering) steps)
    have h := recalls_run minLevel rendering steps
    obtain ⟨-, rfl⟩ | ⟨number, k, rfl, rfl⟩ := Step.spared?_eq_some hst
    · exact answer_congr (by rw [hspared.minLevel_eq, h.minLevel_eq])
        (by rw [hspared.rendering_eq, h.rendering_eq]) st'
    · rfl

/-- The second guard is that of the first scope once the opening before it is left out. -/
example :
    let tag : View := .ofList [⟨"tag", .str "a"⟩]
    let failing : View := .ofList [⟨"tag", .display ⟨["a"], true⟩⟩]
    spared (failed none true) [.enter failing, .enter tag, .leave 0, .leave 1] =
      [.enter tag, .leave 0] := by
  cbv

end Memory

/-! ## All sinks -/

/-- On each of the sinks, over any device and from any state of it, what fails when it is displayed
leaves no trace: without the steps in which this happens, a run shows the same and its other steps
are answered alike. Only a sink of text lines returns from such a step, without a line. -/
theorem failed_steps_vanish :
    (∀ minLevel rendering,
      FailuresVanish (Memory.failed minLevel rendering) true (fun _ _ => False)
        (fun s => (s.entries, s.scopes, s.openScopes)) ({ minLevel, rendering } : Memory)) ∧
    (∀ minLevel eventIds device,
      FailuresVanish (Step.failsFor minLevel Entry.textFails fun _ => false) false
        (fun s st => .giveUp ∈ s.responses TextLines.device st)
        (fun s => (s.device, s.scopes.contents)) { minLevel, eventIds, device }) ∧
    ∀ minLevel messages device,
      FailuresVanish (Step.failsFor minLevel (Entry.objectFails messages) View.fails) true
        (fun s st => .giveUp ∈ s.responses JsonLines.device st)
        (fun s => (s.device, s.scopes.contents)) { minLevel, messages, device } :=
  ⟨Memory.failuresVanish,
    fun minLevel eventIds device => (TextLines.lacksLines minLevel eventIds device).failuresVanish,
    fun minLevel messages device => (JsonLines.lacksLines minLevel messages device).failuresVanish⟩

end StructuredLog
