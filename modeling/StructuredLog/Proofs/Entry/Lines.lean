import StructuredLog.Proofs.Json.Fields
import StructuredLog.Sink.TextLines

/-!
# Lines of entries

What a sink of lines writes of an entry is told by the entry and by the scopes that are attached to
it: a text with its parts one behind another, or an object whose members are listed in a table.
There is no line if a part that it shows cannot be displayed.
-/

namespace StructuredLog

/-! ## Lines of text -/

/-- A line with these parts, with the event if events are shown. -/
def TextLines.assembled (eventIds : Bool) (level : Level) (event : EventId) (message : String)
    (error : Option String) (scopes : List String) : String :=
  level.label ++ (if eventIds then " [" ++ event.text ++ "]" else "") ++ " " ++ message ++
    error.elim "" (": " ++ ·) ++ String.join (scopes.map (" => " ++ ·)) ++ "\n"

theorem TextLines.assembled_ne_empty (eventIds : Bool) (level : Level) (event : EventId)
    (message : String) (error : Option String) (scopes : List String) :
    assembled eventIds level event message error scopes ≠ "" := by
  rw [assembled, ne_eq, String.append_eq_empty_iff]
  exact fun h => absurd h.2 (by decide)

namespace Entry

/-- Is there no text of the entry, because its message or its error cannot be displayed? -/
def textFails (e : Entry) : Bool :=
  e.messageFails || e.errorFails

/-- The line of an entry with these scopes behind it. -/
def textLine (eventIds : Bool) (scopes : List String) (e : Entry) : String :=
  TextLines.assembled eventIds e.level e.event (Rendering.text e.message)
    (e.error.map Displayed.text) scopes

end Entry

namespace TextLines

/-- The line of an entry with these scopes, as the sink is set up. -/
def shown (s : TextLines) (e : Entry) (scopes : List String) : Option String :=
  if e.textFails then none else some (e.textLine s.eventIds scopes)

theorem line_result (e : Entry) (s : TextLines) :
    (s.line e).result = s.shown e s.scopes.contents := by
  rw [line, shown, Observed.bind_result, Entry.text_result, Entry.textFails]
  cases e.messageFails with
  | true => rfl
  | false =>
    simp only [Bool.false_eq_true, if_false, Option.bind_some, Observed.bind_result,
      Entry.errorText_result, Bool.false_or]
    cases e.errorFails with
    | true => rfl
    | false =>
      cases herror : e.error <;>
        simp [Entry.textLine, assembled, herror, String.append_assoc]

theorem shown_ne_empty (s : TextLines) (e : Entry) (scopes : List String) :
    s.shown e scopes ≠ some "" := by
  rw [shown]
  split
  · exact (Option.some_ne_none _).symm
  · exact fun h => assembled_ne_empty _ _ _ _ _ _ (Option.some.inj h)

end TextLines

/-! ## Objects -/

namespace Entry

/-- Is there no object of the entry, because a part of it cannot be displayed? -/
def objectFails (messages : Bool) (e : Entry) : Bool :=
  (messages && e.messageFails) || e.state.fields.any (fun pair => pair.value.fails) || e.errorFails

/-- The members of the object of an entry with these scopes, as far as they are there. -/
def members (messages : Bool) (scopes : List Json.Members) (e : Entry) :
    List (String × Option Json) := [
  ("level", some (.str e.level.name)),
  ("event_id", some (.number (.int e.event.id.toInt64))),
  ("event_name", e.event.name.map .str),
  ("message", if messages then some (.str (Rendering.text e.message)) else none),
  ("template", e.state.template?.map .str),
  ("fields", some (.object (Json.gathered (e.state.fields.map Pair.captured)))),
  ("scopes", if scopes = [] then none else some (.array (scopes.map .object))),
  ("error", e.error.map fun error => .str error.text)]

theorem nodup_keys_members (messages : Bool) (scopes : List Json.Members) (e : Entry) :
    ((e.members messages scopes).map Prod.fst).Nodup := by
  have hkeys : (e.members messages scopes).map Prod.fst = ["level", "event_id", "event_name",
    "message", "template", "fields", "scopes", "error"] := rfl
  rw [hkeys]
  decide

theorem objectFails_of_fails_eq_false {messages : Bool} {e : Entry} (h : e.fails true = false) :
    e.objectFails messages = false := by
  obtain ⟨hstate, hmessage, herror⟩ := e.fails_eq_false_iff.mp h
  rw [objectFails, hmessage, View.any_fails_fields hstate, herror, Bool.and_false]
  rfl

/-- The object of an entry with these scopes. -/
def object (messages : Bool) (scopes : List Json.Members) (e : Entry) : Json.Members :=
  Json.Members.ofList (Json.present (e.members messages scopes))

theorem get?_object (messages : Bool) (scopes : List Json.Members) (e : Entry) (key : String) :
    (e.object messages scopes).get? key = ((e.members messages scopes).lookup key).join :=
  Json.get?_ofList_present (e.nodup_keys_members messages scopes) key

/-- The object shows these scopes: they are the member of this name, unless there are none, and all
other members are those of the entry without scopes. -/
structure ShownWith (messages : Bool) (scopes : List Json.Members) (e : Entry)
    (object : Json.Members) : Prop where
  sorted : object.Sorted
  get?_scopes : object.get? "scopes" =
    if scopes = [] then none else some (.array (scopes.map .object))
  get?_of_ne : ∀ key, key ≠ "scopes" →
    object.get? key = ((e.members messages []).lookup key).join

theorem shownWith_object (messages : Bool) (scopes : List Json.Members) (e : Entry) :
    e.ShownWith messages scopes (e.object messages scopes) := by
  refine ⟨Json.Members.sorted_ofList _, e.get?_object messages scopes "scopes", ?_⟩
  intro key hkey
  rw [get?_object]
  simp only [members, List.lookup_cons, beq_false_of_ne hkey]

end Entry

namespace JsonLines

theorem object_result (e : Entry) (s : JsonLines) : (s.object e).result =
    if e.objectFails s.messages then none
    else some (.object (e.object s.messages s.scopes.contents)) := by
  rw [object, Entry.bind_text_result, Entry.objectFails]
  cases (s.messages && e.messageFails) with
  | true => rfl
  | false =>
    rw [if_neg Bool.false_ne_true, Observed.bind_result, Json.fields_result, Bool.false_or]
    cases e.state.fields.any fun pair => pair.value.fails with
    | true => rfl
    | false =>
      rw [if_neg Bool.false_ne_true, Option.bind_some, Observed.bind_result, Entry.errorText_result,
        Bool.false_or]
      cases e.errorFails with
      | true => rfl
      | false =>
        rw [if_neg Bool.false_ne_true, if_neg Bool.false_ne_true, Option.bind_some,
          Observed.pure_result, Json.ofEntries, Entry.object, Entry.members]
        cases s.messages <;> cases s.scopes.contents <;>
          simp [Json.present_nil, Json.present_cons, Function.comp_def]

/-- The line of an entry with these scopes, as the sink is set up. -/
def shown (s : JsonLines) (e : Entry) (scopes : List Json.Members) : Option String :=
  if e.objectFails s.messages then none
  else some ((Json.object (e.object s.messages scopes)).render ++ "\n")

theorem line_result (e : Entry) (s : JsonLines) :
    (s.line e).result = s.shown e s.scopes.contents := by
  rw [line, shown, Observed.bind_result, object_result]
  cases e.objectFails s.messages <;> rfl

theorem shown_ne_empty (s : JsonLines) (e : Entry) (scopes : List Json.Members) :
    s.shown e scopes ≠ some "" := by
  rw [shown]
  split
  · exact (Option.some_ne_none _).symm
  · rw [ne_eq, Option.some_inj, String.append_eq_empty_iff]
    exact fun h => absurd h.2 (by decide)

end JsonLines

end StructuredLog
