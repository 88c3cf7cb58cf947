import StructuredLog.Proofs.Sink.WrittenLines

/-!
# The log of a sink of text lines

Over a device that takes everything, a run writes one line for each entry that is enabled and can be
displayed. All other entries make no difference.
-/

namespace StructuredLog

/-! ## Lines of entries -/

namespace Logged

/-- The line of a logged entry, with the scopes held at that time. -/
def textLine (eventIds : Bool) (l : Logged Empty) : String :=
  l.entry.textLine eventIds ((heldScopes TextLines.scopeContent l.earlier).map Prod.snd)

/-- What a logged entry adds to the log. -/
def text? (minLevel : Level) (eventIds : Bool) (l : Logged Empty) : Option String :=
  if minLevel ≤ l.entry.level ∧ l.entry.textFails = false then some (l.textLine eventIds) else none

end Logged

namespace TextLines

/-! ## Steps -/

/-- A call is logged as its entry is, since the sink looks at the level again. -/
theorem message_log_eq {arity : Nat} (m : Message arity) (args : Vector Value arity)
    (error : Option Displayed) (s : TextLines) :
    m.log args error s = Sink.log (m.entry args error) s := by
  have hask : Sink.isEnabled m.level s = (s.isEnabled m.level, s) := rfl
  rw [Message.log, hask]
  cases hlevel : s.isEnabled m.level with
  | true => rfl
  | false =>
    show _ = TextLines.log (m.entry args error) s
    have hentry : s.isEnabled (m.entry args error).level = false := hlevel
    rw [TextLines.log, hentry]
    rfl

theorem step_eq (s : Session TextLines) {st : Step Empty} {e : Entry} (h : st.entry? = some e) :
    s.step st = { s with sink := (Sink.log e s.sink).2 } := by
  cases st with
  | log e' =>
    cases h
    rfl
  | call m args error =>
    cases h
    rw [Session.step, message_log_eq]
  | enter v => cases h
  | leave number => cases h
  | own operation => cases h

/-- An entry below the level or one without text leaves the sink as it is. -/
theorem log_eq_self {e : Entry} {s : TextLines}
    (h : s.minLevel ≤ e.level → e.textFails = true) : (Sink.log e s).2 = s := by
  rw [log_snd, Device.afterEntry]
  split
  · rename_i hlevel
    rw [line_result, shown, if_pos (h hlevel), Device.offer]
  · rfl

/-- Nothing is given up over a device that does not give up. -/
theorem log_result {lines : List String} {s : TextLines} (h : s.device = .holding lines)
    (e : Entry) : (Sink.log e s).1.result = some () := by
  have hwritten (bytes : List UInt8) : (s.device.writeAll bytes).1 = .all := by
    rw [h, Device.writeAll]
    split <;> rfl
  show (TextLines.log e s).1.result = _
  rw [TextLines.log]
  split
  · cases hline : (s.line e).result with
    | none => simp only [hline]
    | some text => simp [hline, hwritten]
  · rfl

/-! ## Runs -/

theorem device_run (minLevel : Level) (eventIds : Bool) (steps : List (Step Empty)) :
    let init : TextLines := { minLevel, eventIds, device := .perfect }
    (Session.run { sink := init } steps).sink.device =
      .holding ((logged steps).filterMap (Logged.text? minLevel eventIds)) := by
  intro init
  have hline (l : Logged Empty) :
      l.line? scopeContent minLevel init.shown = l.text? minLevel eventIds := by
    rw [Logged.line?, Logged.text?, shown]
    by_cases hlevel : minLevel ≤ l.entry.level <;> cases l.entry.textFails <;>
      simp [hlevel, init, Logged.textLine]
  rw [(init.attachesHeldScopes rfl).device_run rfl init.shown_ne_empty, funext hline]

/-- After any run over a device that takes everything, what was written is a line for each entry
that is enabled and can be displayed, in order and each in one piece. No entry is given up with,
and one that has no line makes no difference to anything later. -/
theorem lines_of_run (minLevel : Level) (eventIds : Bool) (steps : List (Step Empty)) :
    let init : TextLines := { minLevel, eventIds, device := .perfect }
    let s := Session.run { sink := init } steps
    s.sink.device.taken = ((logged steps).filterMap (Logged.text? minLevel eventIds)).map
      (fun line => line.toUTF8.toList) ∧
    (∀ e, (Sink.log e s.sink).1.result = some ()) ∧
    (∀ {arity : Nat} (m : Message arity) (args : Vector Value arity) (error : Option Displayed),
      (m.log args error s.sink).1.result = some ()) ∧
    ∀ (st : Step Empty) (e : Entry), st.entry? = some e →
      (¬ minLevel ≤ e.level ∨ e.textFails = true) → ∀ rest,
        Session.run { sink := init } (steps ++ st :: rest) =
          Session.run { sink := init } (steps ++ rest) := by
  intro init s
  have hdevice : s.sink.device = _ := device_run minLevel eventIds steps
  have hminLevel : s.sink.minLevel = minLevel :=
    (Prod.mk.inj (keeps_settings.run { sink := init } steps)).1
  refine ⟨?_, log_result hdevice, ?_, ?_⟩
  · rw [hdevice, Device.holding]
  · intro arity m args error
    rw [message_log_eq]
    exact log_result hdevice _
  · intro st e he hrejected rest
    have hsame : s.sink.minLevel ≤ e.level → e.textFails = true := by
      rw [hminLevel]
      exact fun hlevel => hrejected.resolve_left (not_not_intro hlevel)
    -- The step leaves the session as it is, so the rest begins where it would without it.
    have hst : Session.run { sink := init } (steps ++ [st]) = s := by
      rw [Session.run_append_singleton, step_eq s he, log_eq_self hsame]
    rw [List.append_cons, Session.run_append, hst, Session.run_append]

/-- A message fails after a part of its text; the line before it shows an open scope. -/
theorem lines_of_run_half_message :
    let user : View := .ofList [⟨"user", .str "a"⟩]
    let hello : Entry :=
      { level := .info, event := ⟨7, none⟩, state := user, message := [.write "hello"],
        error := some ⟨["late"], false⟩ }
    let half : Entry := { hello with message := [.write "hel", .fail] }
    let init : TextLines := { minLevel := .info, eventIds := true, device := .perfect }
    let before : List (Step Empty) := [.enter user, .log half]
    let steps := before ++ [.log hello]
    (Session.run { sink := init } steps).sink.device.taken =
      ["INFO  [7] hello: late => user: a\n".toUTF8.toList] ∧
    (Sink.log half (Session.run { sink := init } steps).sink).1.result = some () ∧
    Session.run { sink := init } (steps ++ .log half :: steps) =
      Session.run { sink := init } (steps ++ steps) := by
  intro user hello half init before steps
  obtain ⟨hlines, hlog, -, hrejected⟩ := lines_of_run .info true steps
  have hhalf : Logged.text? .info true ⟨[.enter user], half⟩ = none := if_neg (by decide)
  have hscopes : heldScopes scopeContent before = [(0, "user: a")] := by
    simp [before, user, heldScopes, openings, openingsFrom, Step.view?, Opening.scope?,
      Opening.dropped, Step.leaves, scopeContent, scopeText]
    decide
  have hhello : Logged.text? .info true ⟨before, hello⟩ =
      some "INFO  [7] hello: late => user: a\n" := by
    rw [Logged.text?, Logged.textLine, hscopes]
    decide
  have hlogged : (logged steps).filterMap (Logged.text? .info true) =
      ["INFO  [7] hello: late => user: a\n"] :=
    (List.filterMap_cons_none hhalf).trans (List.filterMap_cons_some hhello)
  refine ⟨?_, hlog half, ?_⟩
  · rw [hlines, hlogged]
    rfl
  · exact hrejected (.log half) half rfl (.inr rfl) steps

end TextLines

end StructuredLog
