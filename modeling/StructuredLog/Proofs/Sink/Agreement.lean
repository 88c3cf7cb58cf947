import StructuredLog.Proofs.Sink.JsonLog
import StructuredLog.Proofs.Sink.MemoryLog
import StructuredLog.Proofs.Sink.TextLog

/-!
# Agreement of the sinks

Used in the same way, a sink that remembers, one of text lines and one of JSON lines accept the same
entries, and what they make of an entry shows the same message and the same scopes.
-/

namespace StructuredLog

/-! ## What a scope holds -/

/-- The text of a scope: its pairs with commas between them. -/
def CapturedScope.text (scope : CapturedScope) : String :=
  String.intercalate ", " (scope.pairs.map fun pair => pair.name ++ ": " ++ pair.value.text)

/-- The object of a scope. -/
def CapturedScope.json (scope : CapturedScope) : Json :=
  .object (Json.gathered scope.pairs)

theorem TextLines.scopeText_eq (v : View) (closed : Bool) :
    scopeText v = CapturedScope.text ⟨v.captured, closed⟩ := by
  simp [scopeText, CapturedScope.text, View.captured, Pair.captured, Function.comp_def,
    Value.text_captured]

theorem JsonLines.scopeContent_eq {v : View} (h : v.fails = false) :
    scopeContent v = some (Json.gathered v.captured) := by
  rw [View.fails] at h
  rw [scopeContent, Json.fields_result, h]
  rfl

theorem Memory.scopeContent_eq {v : View} (h : v.fails = false) :
    scopeContent v = some v.captured := by
  rw [scopeContent, View.capture_result, h]
  rfl

/-! ## Scopes that are held -/

section Contents

variable {κ : Type} {steps : List (Step κ)} (h : ∀ st ∈ steps, st.Displays)

include h

/-- Scopes in lines of text hold what is captured of them. -/
theorem TextLines.heldScopes_eq : (heldScopes scopeContent steps).map Prod.snd =
    (heldScopes Memory.scopeContent steps).map fun scope =>
      CapturedScope.text ⟨scope.2, false⟩ := by
  have hcontent : ∀ st ∈ steps, ∀ v, st.view? = some v →
      scopeContent v = (Memory.scopeContent v).map fun pairs =>
        CapturedScope.text ⟨pairs, false⟩ := by
    intro st hst v hv
    rw [Memory.scopeContent_eq ((h st hst).fails_view hv), scopeContent, scopeText_eq v false]
    rfl
  rw [heldScopes_eq_map hcontent, List.map_map]
  rfl

/-- Scopes in lines of JSON hold what is captured of them. -/
theorem JsonLines.heldScopes_eq : (heldScopes scopeContent steps).map Prod.snd =
    (heldScopes Memory.scopeContent steps).map fun scope => Json.gathered scope.2 := by
  have hcontent : ∀ st ∈ steps, ∀ v, st.view? = some v →
      scopeContent v = (Memory.scopeContent v).map Json.gathered := by
    intro st hst v hv
    have hfails := (h st hst).fails_view hv
    rw [Memory.scopeContent_eq hfails, scopeContent_eq hfails]
    rfl
  rw [heldScopes_eq_map hcontent, List.map_map]
  rfl

end Contents

/-! ## Runs -/

/-- If everything can be displayed, the lines are those of the accepted entries. -/
theorem TextLines.device_run_of_displays (minLevel : Level) (eventIds : Bool)
    {steps : List (Step Empty)} (h : ∀ st ∈ steps, st.Displays) :
    let init : TextLines := { minLevel, eventIds, device := .perfect }
    (Session.run { sink := init } steps).sink.device =
      .holding ((accepted minLevel steps).map (Logged.textLine eventIds)) := by
  intro init
  rw [device_run, filterMap_logged]
  intro l hl
  obtain ⟨-, hmessage, herror⟩ := l.entry.fails_eq_false_iff.mp (fails_of_mem_logged h hl)
  simp [Logged.text?, Entry.textFails, hmessage, herror]

/-- What the sinks make of one entry shows the same message, and the same scopes, which are open at
that time. -/
structure Accord (eventIds : Bool) (scopes : List CapturedScope) (entry : CapturedEntry)
    (line : String) (object : Json.Members) : Prop where
  exists_message : ∃ message, entry.message = some message ∧
    object.get? "message" = some (.str message) ∧
    line = TextLines.assembled eventIds entry.level entry.event message entry.error
      (scopes.map CapturedScope.text)
  get?_scopes : object.get? "scopes" =
    if scopes = [] then none else some (.array (scopes.map CapturedScope.json))

/-- After any run of calls, scopes and dropped guards in which everything can be displayed, the three
sinks have accepted the same entries in the same order, those whose level is enabled, and what they
made of each accords with the scopes that were open at that time. -/
theorem sinks_agree (minLevel : Level) (eventIds : Bool) (steps : List (Step Empty))
    (hcalls : ∀ st ∈ steps, ∀ e, st ≠ .log e) (h : ∀ st ∈ steps, st.Displays) :
    let memory : Memory := { minLevel, rendering := true }
    let text : TextLines := { minLevel, eventIds, device := .perfect }
    let json : JsonLines := { minLevel, messages := true, device := .perfect }
    (Session.run { sink := memory } steps).sink.entries =
      (accepted minLevel steps).map (fun l => l.entry.captured true) ∧
    (Session.run { sink := text } steps).sink.device.taken =
      (accepted minLevel steps).map (fun l => (l.textLine eventIds).toUTF8.toList) ∧
    (Session.run { sink := json } steps).sink.device.taken =
      (accepted minLevel steps).map (fun l =>
        ((Json.object (l.object true)).render ++ "\n").toUTF8.toList) ∧
    ∀ l ∈ accepted minLevel steps,
      Accord eventIds (Session.run { sink := memory } l.earlier).sink.openScopes
        (l.entry.captured true) (l.textLine eventIds) (l.object true) := by
  intro memory text json
  have htext : (Session.run { sink := text } steps).sink.device = _ :=
    TextLines.device_run_of_displays minLevel eventIds h
  have hjson : (Session.run { sink := json } steps).sink.device = _ :=
    JsonLines.device_run minLevel true h
  refine ⟨Memory.entries_run_of_calls hcalls h, ?_, ?_, ?_⟩
  · rw [htext, Device.holding, List.map_map]
    rfl
  · rw [hjson, Device.holding, List.map_map]
    rfl
  · intro l hl
    -- Each sink attaches what is captured of the same held scopes, in a form of its own.
    have hearlier := displays_earlier h (List.mem_of_mem_filter hl)
    have hopen : (Session.run { sink := memory } l.earlier).sink.openScopes = _ :=
      Memory.openScopes_run minLevel true l.earlier
    have hget := l.entry.get?_object true
      ((heldScopes JsonLines.scopeContent l.earlier).map Prod.snd)
    refine ⟨⟨Rendering.text l.entry.message, rfl, hget "message", ?_⟩, ?_⟩
    · rw [Logged.textLine, TextLines.heldScopes_eq hearlier, hopen, List.map_map]
      rfl
    · rw [Logged.object, (l.entry.shownWith_object true _).get?_scopes,
        JsonLines.heldScopes_eq hearlier, hopen]
      simp only [List.map_eq_nil_iff, List.map_map]
      rfl

/-- Two equal scopes are opened and the first is closed before a call. -/
theorem sinks_agree_greeting :
    let m : Message 1 :=
      ⟨.info, ⟨7, none⟩, ⟨"hi \x7buser\x7d", [.literal 0 "hi ", .slot 0], ["user"]⟩, #v["user"]⟩
    let args : Vector Value 1 := #v[.str "alice"]
    let tag : View := .ofList [⟨"tag", .str "a"⟩]
    let before : List (Step Empty) := [.enter tag, .enter tag, .leave 0]
    let steps := before ++ [.call m args none]
    let l : Logged Empty := ⟨before, m.entry args none⟩
    (∀ st ∈ steps, ∀ e, st ≠ .log e) ∧ (∀ st ∈ steps, st.Displays) ∧
    accepted .info steps = [l] ∧
    Accord true [⟨[⟨"tag", .str "a"⟩], false⟩] (l.entry.captured true) (l.textLine true)
      (l.object true) := by
  intro m args tag before steps l
  have hcalls : ∀ st ∈ steps, ∀ e, st ≠ .log e := by
    simp [steps, before]
  have htag : tag.fails = false := by
    rw [View.fails, View.pairs_ofList]
    rfl
  have hdefine : ∃ level event template unformatted,
      Message.define 1 level event template unformatted = .ok m :=
    ⟨.info, ⟨7, none⟩, "hi \x7buser\x7d", [], rfl⟩
  have hdisplays : ∀ st ∈ steps, st.Displays := by
    simp [steps, before, Step.Displays, htag, hdefine, args, Value.fails, Value.rendering,
      Rendering.completes]
  have haccepted : accepted .info steps = [l] := rfl
  obtain ⟨-, -, -, haccord⟩ := sinks_agree .info true steps hcalls hdisplays
  have h := haccord l (haccepted ▸ List.mem_singleton_self _)
  have hopen : heldScopes Memory.scopeContent before = [(1, tag.captured)] := by
    simp [before, heldScopes, openings, openingsFrom, Step.view?, Opening.scope?, Opening.dropped,
      Step.leaves, Memory.scopeContent_eq htag]
  rw [Memory.openScopes_run, hopen] at h
  have htagged : tag.captured = [⟨"tag", .str "a"⟩] := by
    rw [View.captured, View.pairs_ofList]
    rfl
  refine ⟨hcalls, hdisplays, haccepted, ?_⟩
  rwa [htagged] at h

end StructuredLog
