import StructuredLog.Proofs.Entry.Lines
import StructuredLog.Proofs.Json.RepeatedNames
import StructuredLog.Proofs.Sink.GuardedScopes

/-!
# The scopes attached to lines

Sinks of lines attach their open scopes to every line they write, as text or as a member of its
object. In any run these are the scopes whose guards are held.
-/

namespace StructuredLog

/-! ## Offering lines -/

/-- The device after a line was offered to it, if there is one. -/
def Device.offer (line : Option String) (d : Device) : Device :=
  match line with
  | some text => (d.writeAll text.toUTF8.toList).2
  | none => d

/-- The device after a step that logs this entry, if any: it is offered the line of the entry, if
the level is enabled. -/
def Device.afterEntry (minLevel : Level) (line : Entry → Option String) (d : Device) :
    Option Entry → Device
  | some e => if minLevel ≤ e.level then d.offer (line e) else d
  | none => d

/-- A sink that offers its device a line for each entry whose level is enabled. -/
structure Sink.OffersLines {σ : Type} [Sink σ] (minLevel : σ → Level)
    (line : Entry → σ → Observed String) (device : σ → Device) : Prop where
  isEnabled : ∀ level s, Sink.isEnabled level s = (decide (minLevel s ≤ level), s)
  device_log : ∀ e s, device (Sink.log e s).2 =
    (device s).afterEntry (minLevel s) (fun e => (line e s).result) (some e)
  device_beginScope : ∀ v s, device (Sink.beginScope v s).2 = device s
  device_endScope : ∀ id s, device (Sink.endScope id s) = device s

section Lines

variable {σ : Type} [Sink σ] {minLevel : σ → Level} {line : Entry → σ → Observed String}
  {device : σ → Device}

/-- A call whose level is disabled logs no entry, which makes no difference for the device. -/
theorem Sink.OffersLines.device_message_log (h : Sink.OffersLines minLevel line device)
    {arity : Nat} (m : Message arity) (args : Vector Value arity) (error : Option Displayed)
    (s : σ) : device (m.log args error s).2 =
      (device s).afterEntry (minLevel s) (fun e => (line e s).result) (m.entry args error) := by
  rw [Message.log, h.isEnabled]
  by_cases hlevel : minLevel s ≤ m.level
  · simp only [hlevel, decide_true, if_true]
    exact h.device_log (m.entry args error) s
  · simp only [hlevel, decide_false, Bool.false_eq_true, if_false]
    exact (if_neg hlevel).symm

theorem Sink.OffersLines.device_step (h : Sink.OffersLines minLevel line device) (s : Session σ)
    (st : Step Empty) : device (s.step st).sink =
      (device s.sink).afterEntry (minLevel s.sink) (fun e => (line e s.sink).result) st.entry? := by
  cases st with
  | log e => exact h.device_log e s.sink
  | call m args error => exact h.device_message_log m args error s.sink
  | enter v => exact h.device_beginScope v s.sink
  | leave number => exact s.step_leave_keeps h.device_endScope number
  | own operation => exact operation.elim

/-- In any run from `init` on, the lines show the scopes whose guards are held. What `shown` gives
for a sink as it was set up is the line of an entry with certain scopes attached. -/
structure AttachesHeldScopes {α : Type} (minLevel : σ → Level) (line : Entry → σ → Observed String)
    (device : σ → Device) (scopes : σ → OpenScopes α) (content : View → Option α)
    (shown : σ → Entry → List α → Option String) (init : σ) : Prop where
  followGuards : ScopesFollowGuards scopes content init
  line_eq : ∀ (steps : List (Step Empty)) (e : Entry),
    (line e (Session.run { sink := init } steps).sink).result =
      shown init e ((heldScopes content steps).map Prod.snd)
  /-- Lines are all that is written, one for each entry whose level is enabled. -/
  device_step : ∀ (steps : List (Step Empty)) (st : Step Empty),
    let s := Session.run { sink := init } steps
    device (s.step st).sink =
      (device s.sink).afterEntry (minLevel init) (fun e => (line e s.sink).result) st.entry?

theorem Sink.OffersLines.attachesHeldScopes {α : Type} {scopes : σ → OpenScopes α}
    {content : View → Option α} {shown : σ → Entry → List α → Option String}
    (h : Sink.OffersLines minLevel line device) (hscopes : Sink.KeepsScopes scopes content)
    (hsettings : Sink.Keeps fun s => (minLevel s, shown s))
    (hline : ∀ e s, (line e s).result = shown s e (scopes s).contents) {init : σ}
    (hinit : (scopes init).entries = []) :
    AttachesHeldScopes minLevel line device scopes content shown init := by
  have hfollow := hscopes.scopesFollowGuards hinit
  have hkept (steps : List (Step Empty)) := Prod.mk.inj <| hsettings.run { sink := init } steps
  refine ⟨hfollow, ?_, ?_⟩
  · intro steps e
    rw [hline, (hkept steps).2, hfollow.contents_eq]
  · intro steps st s
    rw [h.device_step, (hkept steps).1]

end Lines

/-! ## Lines of text -/

namespace TextLines

theorem log_snd (e : Entry) (s : TextLines) : (Sink.log e s).2 = { s with
    device := s.device.afterEntry s.minLevel (fun e => (s.line e).result) (some e) } := by
  show (TextLines.log e s).2 = _
  rw [TextLines.log, Device.afterEntry, isEnabled]
  by_cases hlevel : s.minLevel ≤ e.level
  · simp only [hlevel, decide_true, if_true, Device.offer]
    cases (s.line e).result <;> rfl
  · simp only [hlevel, decide_false, Bool.false_eq_true, if_false]

theorem offersLines : Sink.OffersLines minLevel TextLines.line device where
  isEnabled _ _ := rfl
  device_log e s := by rw [log_snd]
  device_beginScope _ _ := rfl
  device_endScope _ _ := rfl

/-- Any scope can be opened. -/
def scopeContent (v : View) : Option String :=
  some (scopeText v)

theorem keepsScopes : Sink.KeepsScopes scopes scopeContent where
  logging := ⟨fun _ _ => rfl, fun e s => by rw [log_snd]⟩
  beginScope_result _ _ := rfl
  scopes_beginScope _ _ := rfl
  scopes_endScope _ _ := rfl
  endScope_comm id id' s := by
    show { s with scopes := (s.scopes.remove id').remove id } = _
    rw [OpenScopes.remove_comm]
    rfl

/-- A sink stays as it was set up. -/
theorem keeps_settings : Sink.Keeps fun s : TextLines => (s.minLevel, s.shown) where
  logging := ⟨fun _ _ => rfl, fun e s => by rw [log_snd]; rfl⟩
  beginScope _ _ := rfl
  endScope _ _ := rfl

end TextLines

/-! ## Lines of JSON -/

namespace JsonLines

theorem log_snd (e : Entry) (s : JsonLines) : (Sink.log e s).2 = { s with
    device := s.device.afterEntry s.minLevel (fun e => (s.line e).result) (some e) } := by
  show (JsonLines.log e s).2 = _
  rw [JsonLines.log, Device.afterEntry, isEnabled]
  by_cases hlevel : s.minLevel ≤ e.level
  · simp only [hlevel, decide_true, if_true, Device.offer]
    cases (s.line e).result <;> rfl
  · simp only [hlevel, decide_false, Bool.false_eq_true, if_false]

theorem offersLines : Sink.OffersLines minLevel JsonLines.line device where
  isEnabled _ _ := rfl
  device_log e s := by rw [log_snd]
  device_beginScope v s := by
    show (JsonLines.beginScope v s).2.device = _
    rw [JsonLines.beginScope]
    split <;> rfl
  device_endScope _ _ := rfl

/-- The fields with which a scope is attached, if its values can be displayed. -/
def scopeContent (v : View) : Option Json.Members :=
  (Json.fields v.pairs).result

theorem beginScope_eq (v : View) (s : JsonLines) :
    (Sink.beginScope v s).1.result = (scopeContent v).map (fun _ => .closes s.scopes.nextId) ∧
      (Sink.beginScope v s).2 = { s with
        scopes := ((scopeContent v).map fun a => (s.scopes.push a).2).getD s.scopes } := by
  show (JsonLines.beginScope v s).1.result = _ ∧ (JsonLines.beginScope v s).2 = _
  rw [JsonLines.beginScope, scopeContent]
  cases (Json.fields v.pairs).result <;> exact ⟨rfl, rfl⟩

theorem keepsScopes : Sink.KeepsScopes scopes scopeContent where
  logging := ⟨fun _ _ => rfl, fun e s => by rw [log_snd]⟩
  beginScope_result v s := (beginScope_eq v s).1
  scopes_beginScope v s := by rw [(beginScope_eq v s).2]
  scopes_endScope _ _ := rfl
  endScope_comm id id' s := by
    show { s with scopes := (s.scopes.remove id').remove id } = _
    rw [OpenScopes.remove_comm]
    rfl

/-- A sink stays as it was set up. -/
theorem keeps_settings : Sink.Keeps fun s : JsonLines => (s.minLevel, s.shown) where
  logging := ⟨fun _ _ => rfl, fun e s => by rw [log_snd]; rfl⟩
  beginScope v s := by rw [(beginScope_eq v s).2]; rfl
  endScope _ _ := rfl

end JsonLines

/-! ## Both sinks -/

/-- In any run from `init` on, a line of text ends with the texts of the held scopes. -/
structure TextLines.ShowsHeldScopes (init : TextLines) : Prop where
  line_eq : ∀ (steps : List (Step Empty)) (e : Entry),
    (line e (Session.run { sink := init } steps).sink).result =
      if e.textFails then none
      else some (assembled init.eventIds e.level e.event (Rendering.text e.message)
        (e.error.map Displayed.text) ((heldScopes scopeContent steps).map Prod.snd))
  /-- The text of a scope has what all its pairs write. -/
  content_eq : ∀ v : View, scopeContent v =
    some (String.intercalate ", " (v.pairs.map fun pair => pair.name ++ ": " ++ pair.value.text))

/-- In any run from `init` on, a line of JSON is an object with the held scopes as a member. -/
structure JsonLines.ShowsHeldScopes (init : JsonLines) : Prop where
  exists_object : ∀ (steps : List (Step Empty)) (e : Entry), ∃ object : Json.Members,
    (line e (Session.run { sink := init } steps).sink).result =
      (if e.objectFails init.messages then none
        else some ((Json.object object).render ++ "\n")) ∧
    e.ShownWith init.messages ((heldScopes scopeContent steps).map Prod.snd) object
  content_eq_none_iff : ∀ v : View,
    scopeContent v = none ↔ ∃ pair ∈ v.pairs, pair.value.fails = true
  /-- The object of a scope has under each name what is kept for the values of this name. -/
  get?_content : ∀ (v : View) (content : Json.Members), scopeContent v = some content →
    content.Sorted ∧
      ∀ name, content.get? name = Json.kept (Json.valuesOf name (v.pairs.map Pair.captured))

theorem TextLines.attachesHeldScopes (init : TextLines) (h : init.scopes.entries = []) :
    AttachesHeldScopes minLevel TextLines.line device scopes scopeContent shown init :=
  offersLines.attachesHeldScopes keepsScopes keeps_settings line_result h

theorem JsonLines.attachesHeldScopes (init : JsonLines) (h : init.scopes.entries = []) :
    AttachesHeldScopes minLevel JsonLines.line device scopes scopeContent shown init :=
  offersLines.attachesHeldScopes keepsScopes keeps_settings line_result h

theorem TextLines.showsHeldScopes (init : TextLines) (h : init.scopes.entries = []) :
    init.ShowsHeldScopes where
  line_eq := (init.attachesHeldScopes h).line_eq
  content_eq _ := rfl

theorem JsonLines.showsHeldScopes (init : JsonLines) (h : init.scopes.entries = []) :
    init.ShowsHeldScopes where
  exists_object steps e :=
    ⟨_, (init.attachesHeldScopes h).line_eq steps e, e.shownWith_object init.messages _⟩
  content_eq_none_iff v := by
    simp [scopeContent, Json.fields_result]
  get?_content v content hcontent := by
    rw [scopeContent, Json.fields_result] at hcontent
    split at hcontent
    · cases hcontent
    · cases hcontent
      exact ⟨Json.sorted_gathered _, Json.get?_gathered _⟩

/-- In any run, a line shows the scopes whose guards are held: those that were opened and not closed
since, in the order of their opening and each with what it was given. Which guards are dropped
counts, and not in which order. -/
theorem lines_attach_held_scopes :
    (∀ minLevel eventIds device,
      let init : TextLines := { minLevel, eventIds, device }
      AttachesHeldScopes TextLines.minLevel TextLines.line TextLines.device TextLines.scopes
        TextLines.scopeContent TextLines.shown init ∧ init.ShowsHeldScopes) ∧
    ∀ minLevel messages device,
      let init : JsonLines := { minLevel, messages, device }
      AttachesHeldScopes JsonLines.minLevel JsonLines.line JsonLines.device JsonLines.scopes
        JsonLines.scopeContent JsonLines.shown init ∧ init.ShowsHeldScopes := by
  refine ⟨?_, ?_⟩
  · intro minLevel eventIds device init
    exact ⟨init.attachesHeldScopes rfl, init.showsHeldScopes rfl⟩
  · intro minLevel messages device init
    exact ⟨init.attachesHeldScopes rfl, init.showsHeldScopes rfl⟩

/-- Of two scopes with equal contents the first is closed, and then the others in either order; a
scope with a value that cannot be displayed is not opened. -/
theorem lines_attach_held_scopes_tags :
    let tag : View := .ofList [⟨"tag", .str "a"⟩]
    let user : View := .ofList [⟨"user", .str "b"⟩]
    let failing : View := .ofList [⟨"tag", .display ⟨["a"], true⟩⟩]
    let hello : Entry := ⟨.info, ⟨7, none⟩, .ofList [], [.write "hello"], none⟩
    let steps : List (Step Empty) := [.enter tag, .enter user, .enter tag, .leave 0]
    let text : Session TextLines := { sink := { device := .perfect } }
    let json : Session JsonLines := { sink := { device := .perfect } }
    (text.run steps).sink.scopes.contents = ["user: b", "tag: a"] ∧
    ((text.run steps).sink.line hello).result =
      some "INFO  [7] hello => user: b => tag: a\n" ∧
    (∃ object : Json.Members,
      ((json.run steps).sink.line hello).result = some ((Json.object object).render ++ "\n") ∧
      object.get? "scopes" =
        some (.array [.object [("user", .str "b")], .object [("tag", .str "a")]])) ∧
    ((json.run steps).sink.line hello).result = some
      ("\x7b\"event_id\":7,\"fields\":\x7b\x7d,\"level\":\"info\",\"message\":\"hello\"," ++
        "\"scopes\":[\x7b\"user\":\"b\"\x7d,\x7b\"tag\":\"a\"\x7d]\x7d\n") ∧
    text.run (steps ++ [1, 2].map .leave ++ steps) =
      text.run (steps ++ [2, 1].map .leave ++ steps) ∧
    ¬ (Sink.beginScope failing (json.run steps).sink).1.result.isSome := by
  intro tag user failing hello steps text json
  obtain ⟨htext, htextLines⟩ := lines_attach_held_scopes.1 .info true .perfect
  obtain ⟨hjson, hjsonLines⟩ := lines_attach_held_scopes.2 .info true .perfect
  have htexts : (heldScopes TextLines.scopeContent steps).map Prod.snd = ["user: b", "tag: a"] := by
    simp [steps, tag, user, heldScopes, openings, openingsFrom, Step.view?, Opening.scope?,
      Opening.dropped, Step.leaves, htextLines.content_eq]
    decide
  have hobjects : (heldScopes JsonLines.scopeContent steps).map Prod.snd =
      [[("user", .str "b")], [("tag", .str "a")]] := by
    simp [steps, tag, user, heldScopes, openings, openingsFrom, Step.view?, Opening.scope?,
      Opening.dropped, Step.leaves, JsonLines.scopeContent, Json.fields, Json.collect, Value.json,
      Json.Members.alter, Json.addValue]
  have hfields : hello.state.fields = [] := by
    rw [View.fields, View.pairs_ofList]
    rfl
  have hfails : hello.objectFails true = false := by
    rw [Entry.objectFails, hfields]
    rfl
  refine ⟨?_, ?_, ?_, ?_, ?_, ?_⟩
  · rw [htext.followGuards.contents_eq, htexts]
  · rw [htextLines.line_eq, htexts]
    decide
  · obtain ⟨object, hline, hshown⟩ := hjsonLines.exists_object steps hello
    rw [hobjects] at hshown
    refine ⟨object, ?_, hshown.get?_scopes⟩
    rw [hline]
    exact if_neg (by rw [hfails]; decide)
  · rw [hjson.line_eq, hobjects, JsonLines.shown]
    refine (if_neg (by rw [hfails]; decide)).trans ?_
    rw [Entry.object, Entry.members, hfields]
    decide
  · exact htext.followGuards.leave_perm steps steps (List.Perm.swap 2 1 [])
  · rw [hjson.followGuards.returned_iff]
    simp [failing, JsonLines.scopeContent, Json.fields, Json.collect, Value.json,
      Rendering.toText, Displayed.rendering, Rendering.completes]

end StructuredLog
