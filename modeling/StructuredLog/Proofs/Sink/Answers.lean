import StructuredLog.Proofs.Sink.JsonLog
import StructuredLog.Proofs.Sink.TextLog

/-!
# Answers to steps

The caller of a sink sees which objects a step displays and what comes back from it, unless the step
is abandoned. Of a guard nothing more is seen than whether it closes anything. A sink of lines
answers by the line of the entry and by what its device does with it, and a sink that remembers by
what it captures.
-/

namespace StructuredLog

/-! ## Answers -/

/-- What comes back from a step. -/
inductive Answer
  | done
  | guard (noop : Bool)
  deriving DecidableEq, Repr

/-- The answer to a step. Dropping a guard and the operations that only one sink has display
nothing and always return. -/
def Session.answer {σ κ : Type} [Sink σ] (s : Session σ) : Step κ → Observed Answer
  | .log e => (fun _ => .done) <$> (Sink.log e s.sink).1
  | .call m args error => (fun _ => .done) <$> (m.log args error s.sink).1
  | .enter v => (fun guard => .guard (guard = .noop)) <$> (Sink.beginScope v s.sink).1
  | .leave _ => pure .done
  | .own _ => pure .done

/-! ## Sinks of lines -/

/-- The answer to an offer of a line; `unshown` is the result where there is none to offer. -/
def Device.answer (unshown : Option Unit) (line : Observed String) (d : Device) :
    Observed Unit where
  started := line.started
  result :=
    match line.result with
    | none => unshown
    | some text => if (d.writeAll text.toUTF8.toList).1 = .gaveUp then none else some ()

theorem Device.answer_of_result_eq_none {unshown : Option Unit} {line : Observed String}
    (h : line.result = none) (d : Device) : d.answer unshown line = ⟨line.started, unshown⟩ := by
  rw [answer, h]

theorem Device.answer_of_result_eq_some {unshown : Option Unit} {line : Observed String}
    {text : String} (h : line.result = some text) (d : Device) : d.answer unshown line =
      ⟨line.started, if (d.writeAll text.toUTF8.toList).1 = .gaveUp then none else some ()⟩ := by
  rw [answer, h]

/-- A sink that offers lines to its device and answers by what becomes of them. A line is determined
by the settings of the sink, which stay, and by the contents of its open scopes. -/
structure Sink.WritesLines {σ α β : Type} [Sink σ] (minLevel : σ → Level)
    (line : Entry → σ → Observed String) (device : σ → Device) (scopes : σ → OpenScopes α)
    (content : View → Option α) (settings : σ → β) (unshown : Option Unit) : Prop where
  offersLines : OffersLines minLevel line device
  keepsScopes : KeepsScopes scopes content
  keeps_settings : Keeps settings
  minLevel_congr : ∀ {s s' : σ}, settings s = settings s' → minLevel s = minLevel s'
  line_congr : ∀ {s s' : σ}, settings s = settings s' →
    (scopes s).contents = (scopes s').contents → ∀ e, line e s = line e s'
  log_fst : ∀ e s, (Sink.log e s).1 =
    if minLevel s ≤ e.level then (device s).answer unshown (line e s) else pure ()
  beginScope_started : ∀ v (s s' : σ),
    (Sink.beginScope v s).1.started = (Sink.beginScope v s').1.started

section Lines

variable {σ α β : Type} [Sink σ] {minLevel : σ → Level} {line : Entry → σ → Observed String}
  {device : σ → Device} {scopes : σ → OpenScopes α} {content : View → Option α} {settings : σ → β}
  {unshown : Option Unit}

namespace Sink.WritesLines

variable (h : WritesLines minLevel line device scopes content settings unshown)

include h

/-- A call whose level is disabled is answered as an entry that is not shown. -/
theorem message_log_fst {arity : Nat} (m : Message arity) (args : Vector Value arity)
    (error : Option Displayed) (s : σ) : (m.log args error s).1 =
      if minLevel s ≤ m.level then (device s).answer unshown (line (m.entry args error) s)
      else pure () := by
  rw [Message.log, h.offersLines.isEnabled]
  by_cases hlevel : minLevel s ≤ m.level
  · simp only [hlevel, decide_true, if_true]
    exact (h.log_fst (m.entry args error) s).trans (if_pos hlevel)
  · simp only [hlevel, decide_false, Bool.false_eq_true, if_false]

/-- A step that logs an entry is answered by its line. -/
theorem answer_of_entry? (s : Session σ) {st : Step Empty} {e : Entry} (he : st.entry? = some e) :
    s.answer st = (fun _ => .done) <$>
      if minLevel s.sink ≤ e.level then (device s.sink).answer unshown (line e s.sink)
      else pure () := by
  cases st with
  | log e' =>
    cases he
    rw [Session.answer, h.log_fst]
  | call m args error =>
    cases he
    rw [Session.answer, h.message_log_fst]
    rfl
  | enter v => cases he
  | leave number => cases he
  | own operation => exact operation.elim

/-- Any other step is answered in the same way in any state. -/
theorem answer_eq_of_entry?_eq_none (s s' : Session σ) {st : Step Empty} (he : st.entry? = none) :
    s.answer st = s'.answer st := by
  cases st with
  | log e => cases he
  | call m args error => cases he
  | enter v =>
    rw [Session.answer, Session.answer, Observed.map_eq, Observed.map_eq,
      h.beginScope_started v s.sink s'.sink, h.keepsScopes.beginScope_result,
      h.keepsScopes.beginScope_result, Option.map_map, Option.map_map]
    rfl
  | leave number => rfl
  | own operation => exact operation.elim

end Sink.WritesLines

end Lines

namespace TextLines

theorem writesLines : Sink.WritesLines minLevel TextLines.line device scopes scopeContent
    (fun s => (s.minLevel, s.eventIds)) (some ()) where
  offersLines := offersLines
  keepsScopes := keepsScopes
  keeps_settings := {
    logging := ⟨fun _ _ => rfl, fun e s => by rw [log_snd]⟩
    beginScope _ _ := rfl
    endScope _ _ := rfl }
  minLevel_congr hs := (Prod.mk.inj hs).1
  line_congr hs hc e := by
    rw [TextLines.line, TextLines.line, (Prod.mk.inj hs).2, hc]
  log_fst e s := by
    show (TextLines.log e s).1 = _
    rw [TextLines.log, isEnabled, Device.answer]
    by_cases hlevel : s.minLevel ≤ e.level
    · simp only [hlevel, decide_true, if_true]
      cases (s.line e).result <;> rfl
    · simp only [hlevel, decide_false, Bool.false_eq_true, if_false]
  beginScope_started _ _ _ := rfl

end TextLines

namespace JsonLines

theorem writesLines : Sink.WritesLines minLevel JsonLines.line device scopes scopeContent
    (fun s => (s.minLevel, s.messages)) none where
  offersLines := offersLines
  keepsScopes := keepsScopes
  keeps_settings := {
    logging := ⟨fun _ _ => rfl, fun e s => by rw [log_snd]⟩
    beginScope v s := by rw [(beginScope_eq v s).2]
    endScope _ _ := rfl }
  minLevel_congr hs := (Prod.mk.inj hs).1
  line_congr hs hc e := by
    rw [JsonLines.line, JsonLines.line, JsonLines.object, JsonLines.object, (Prod.mk.inj hs).2,
      hc]
  log_fst e s := by
    show (JsonLines.log e s).1 = _
    rw [JsonLines.log, isEnabled, Device.answer]
    by_cases hlevel : s.minLevel ≤ e.level
    · simp only [hlevel, decide_true, if_true]
      cases (s.line e).result <;> rfl
    · simp only [hlevel, decide_false, Bool.false_eq_true, if_false]
  beginScope_started v s s' := by
    show (JsonLines.beginScope v s).1.started = (JsonLines.beginScope v s').1.started
    rw [JsonLines.beginScope, JsonLines.beginScope]
    cases (Json.fields v.pairs).result <;> rfl

end JsonLines

/-! ## The sink that remembers -/

namespace Memory

theorem log_fst (e : Entry) (s : Memory) :
    (Sink.log e s).1 = (fun _ => ()) <$> e.capture s.rendering := by
  show (Memory.log e s).1 = _
  rw [Memory.log, Observed.map_eq]
  cases (e.capture s.rendering).result <;> rfl

theorem message_log_fst {arity : Nat} (m : Message arity) (args : Vector Value arity)
    (error : Option Displayed) (s : Memory) : (m.log args error s).1 =
      if s.minLevel.any (· ≤ m.level) then
        (fun _ => ()) <$> (m.entry args error).capture s.rendering
      else pure () := by
  have hask : Sink.isEnabled m.level s =
      (s.minLevel.any (· ≤ m.level), { s with queries := s.queries + 1 }) := rfl
  rw [Message.log, hask]
  cases s.minLevel.any (· ≤ m.level) with
  | false => rfl
  | true => exact log_fst (m.entry args error) { s with queries := s.queries + 1 }

theorem beginScope_fst (v : View) (s : Memory) :
    (Sink.beginScope v s).1 = (fun _ => .closes s.nextScope) <$> v.capture := by
  show (Memory.beginScope v s).1 = _
  rw [Memory.beginScope, Observed.map_eq]
  cases v.capture.result <;> rfl

/-- What comes back depends on how the sink was set up, and on nothing that it remembers. -/
theorem answer_congr {κ : Type} {s s' : Session Memory}
    (hlevel : s.sink.minLevel = s'.sink.minLevel)
    (hrendering : s.sink.rendering = s'.sink.rendering) (st : Step κ) :
    s.answer st = s'.answer st := by
  cases st with
  | log e => rw [Session.answer, Session.answer, log_fst, log_fst, hrendering]
  | call m args error =>
    rw [Session.answer, Session.answer, message_log_fst, message_log_fst, hlevel, hrendering]
  | enter v =>
    rw [Session.answer, Session.answer, beginScope_fst, beginScope_fst]
    simp [Observed.map_eq, Function.comp_def]
  | leave number => rfl
  | own operation => rfl

end Memory

end StructuredLog
