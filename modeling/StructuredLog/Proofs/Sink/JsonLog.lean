import StructuredLog.Proofs.Json.OneLine
import StructuredLog.Proofs.Sink.AcceptedEntries

/-!
# The log of a sink of JSON lines

Over a device that takes everything, a run in which everything can be displayed writes one object
for each accepted entry, on a line of its own. Its members tell what the entry has, and which scopes
are held at that time.
-/

namespace StructuredLog

/-- The object of a logged entry, with the scopes held at that time. -/
def Logged.object (messages : Bool) (l : Logged Empty) : Json.Members :=
  l.entry.object messages ((heldScopes JsonLines.scopeContent l.earlier).map Prod.snd)

namespace JsonLines

/-! ## Runs -/

/-- A run writes the objects of its accepted entries, each with a line break behind it. -/
theorem device_run (minLevel : Level) (messages : Bool) {steps : List (Step Empty)}
    (h : ∀ st ∈ steps, st.Displays) :
    let init : JsonLines := { minLevel, messages, device := .perfect }
    (Session.run { sink := init } steps).sink.device = .holding
      ((accepted minLevel steps).map fun l => (Json.object (l.object messages)).render ++ "\n") := by
  intro init
  rw [(init.attachesHeldScopes rfl).device_run rfl init.shown_ne_empty, filterMap_logged]
  intro l hl
  rw [Logged.line?, shown,
    Entry.objectFails_of_fails_eq_false (fails_of_mem_logged h hl), if_neg Bool.false_ne_true]
  rfl

/-- After any run in which everything can be displayed, what was written splits at line breaks into
one object for each entry whose level is enabled, in order, and nothing behind the last break. The
object has exactly the members that the table of its entry has. -/
theorem objects_of_run (minLevel : Level) (messages : Bool) (steps : List (Step Empty))
    (h : ∀ st ∈ steps, st.Displays) :
    let init : JsonLines := { minLevel, messages, device := .perfect }
    (Session.run { sink := init } steps).sink.device.taken.flatten.splitOn Text.newline =
      (accepted minLevel steps).map
        (fun l => (Json.object (l.object messages)).render.toUTF8.toList) ++ [[]] ∧
    ∀ l ∈ accepted minLevel steps,
      let scopes := (heldScopes scopeContent l.earlier).map Prod.snd
      (l.object messages).Sorted ∧
      ∀ key, (l.object messages).get? key =
        ((l.entry.members messages scopes).lookup key).join := by
  intro init
  let line (l : Logged Empty) := (Json.object (l.object messages)).render.toUTF8.toList
  have hwritten : (Session.run { sink := init } steps).sink.device.taken.flatten =
      Text.terminated ((accepted minLevel steps).map line) := by
    rw [device_run minLevel messages h, Device.holding, Text.terminated, List.map_map,
      List.flatMap_map, ← List.flatMap_def]
    refine List.flatMap_congr fun l _ => ?_
    rw [Function.comp_apply, Text.toList_toUTF8_append, Text.toList_toUTF8_newline]
  have hline : ∀ bytes ∈ (accepted minLevel steps).map line, Text.newline ∉ bytes := by
    intro bytes hbytes
    obtain ⟨l, -, rfl⟩ := List.mem_map.mp hbytes
    rw [Text.newline_mem_toUTF8_iff]
    exact (Json.noControl_render _).not_mem_newline
  refine ⟨?_, ?_⟩
  · rw [hwritten, Text.splitOn_terminated hline]
  · intro l _ scopes
    exact ⟨Json.Members.sorted_ofList _, l.entry.get?_object messages scopes⟩

/-- All texts of this entry have line breaks. Its scope is held, and the other one is not. -/
theorem objects_of_run_line_breaks :
    let scope : View := .ofList [⟨"a\nb", .str "\"\n"⟩]
    let e : Entry :=
      { level := .info, event := ⟨7, some "x\ny"⟩, state := .ofList [⟨"k\n", .str "v\n"⟩],
        message := [.write "one\ntwo"], error := some ⟨["\n"], false⟩ }
    let init : JsonLines := { device := .perfect }
    let before : List (Step Empty) := [.enter scope, .enter scope, .leave 0]
    let steps := before ++ [.log e, .log { e with level := .debug }]
    (∀ st ∈ steps, st.Displays) ∧
    ((Session.run { sink := init } steps).sink.device.taken.flatten.splitOn Text.newline).length =
      2 ∧
    ∃ object : Json.Members, object.get? "message" = some (.str "one\ntwo") ∧
      object.get? "template" = none ∧
      object.get? "scopes" = some (.array [.object [("a\nb", .str "\"\n")]]) := by
  intro scope e init before steps
  have hscope : scope.fails = false := by
    rw [View.fails, View.pairs_ofList]
    rfl
  have hentry (level : Level) : Entry.fails true { e with level } = false := by
    rw [Entry.fails, View.fails, View.pairs_ofList]
    rfl
  have hdisplays : ∀ st ∈ steps, st.Displays := by
    simp [steps, before, Step.Displays, hscope, hentry]
  obtain ⟨hlines, hobjects⟩ := objects_of_run .info true steps hdisplays
  have haccepted : accepted .info steps = [⟨before, e⟩] := rfl
  have hheld : heldScopes scopeContent before = [(1, [("a\nb", .str "\"\n")])] := by
    simp [before, scope, heldScopes, openings, openingsFrom, Step.view?, Opening.scope?,
      Opening.dropped, Step.leaves, scopeContent, Json.fields, Json.collect, Value.json,
      Json.Members.alter, Json.addValue]
  obtain ⟨-, hget⟩ := hobjects ⟨before, e⟩ (haccepted ▸ List.mem_singleton_self _)
  rw [hheld] at hget
  refine ⟨hdisplays, ?_, _, hget "message", hget "template", hget "scopes"⟩
  rw [hlines, haccepted]
  rfl

end JsonLines

end StructuredLog
