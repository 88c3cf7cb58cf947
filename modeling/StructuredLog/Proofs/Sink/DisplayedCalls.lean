import StructuredLog.Proofs.Entry.Started
import StructuredLog.Proofs.Message.Captured
import StructuredLog.Proofs.Sink.Answers

/-!
# What a call displays

To display an argument may cost time, so a sink displays of a call what it shows of it and nothing
else: the formatted arguments once for the message, all arguments once if it shows or keeps them,
and the error once. A call whose level is disabled displays nothing.
-/

namespace StructuredLog.Message

variable {arity : Nat}

/-! ## Arguments -/

/-- The arguments that no slot takes. -/
def unformatted (m : Message arity) (args : Vector Value arity) : List Value :=
  args.toList.drop m.template.arity

theorem displays_toList (m : Message arity) (args : Vector Value arity) :
    Value.displays args.toList =
      Value.displays (m.formatted args) ++ Value.displays (m.unformatted args) := by
  rw [← Value.displays_append, formatted, unformatted, List.take_append_drop]

/-- The template behind the arguments is a text, so there is nothing more to display. -/
theorem displays_state (m : Message arity) (args : Vector Value arity) :
    Value.displays ((m.state args).pairs.map Pair.value) = Value.displays args.toList := by
  rw [pairs_state, List.map_append, map_value_argumentPairs, Value.displays_append]
  exact List.append_nil _

theorem displays_fields {m : Message arity} (h : originalFormat ∉ m.names.toList)
    (args : Vector Value arity) :
    Value.displays ((m.state args).fields.map Pair.value) = Value.displays args.toList := by
  rw [(m.fields_state_eq_iff args).mpr h, map_value_argumentPairs]

variable {level : Level} {event : EventId} {template : String} {names : List String}
  {m : Message arity} {args : Vector Value arity}

theorem Defined.started_rendering (h : Defined arity level event template names m)
    (hargs : ∀ v ∈ args.toList, v.fails = false) :
    Rendering.started (m.rendering args) = Value.displays (m.formatted args) := by
  rw [rendering, Template.started_rendering h.compile_eq (h.arity_le_count_state args)
    (h.fails_of_mem_take hargs), h.take_values_state]

/-! ## Calls -/

theorem log_of_disabled {σ : Type} [Sink σ] (m : Message arity) (args : Vector Value arity)
    (error : Option Displayed) {s : σ} (h : (Sink.isEnabled m.level s).1 = false) :
    m.log args error s = (pure (), (Sink.isEnabled m.level s).2) := by
  have hlog : m.log args error s = if (Sink.isEnabled m.level s).1 then
      Sink.log (m.entry args error) (Sink.isEnabled m.level s).2
    else (pure (), (Sink.isEnabled m.level s).2) := rfl
  rw [hlog, h, if_neg Bool.false_ne_true]

/-- A call whose level is disabled displays nothing, and changes nothing but the count of queries.
Otherwise, if the message could be defined, no argument has the name of the template and nothing
fails, these objects begin: for a line of text the formatted arguments; for a line of JSON all
arguments, and before them the formatted ones if messages are shown; to be remembered all arguments,
and behind them the formatted ones if messages are rendered; and on each sink the error at last. -/
theorem log_displays_needed (h : define arity level event template names = .ok m)
    (hnames : originalFormat ∉ m.names.toList) (hargs : ∀ v ∈ args.toList, v.fails = false)
    {error : Option Displayed} (herror : ∀ object ∈ error, object.fails = false) :
    let formatted := Value.displays (m.formatted args)
    let unformatted := Value.displays (m.unformatted args)
    (∀ s : TextLines,
      (¬ s.minLevel ≤ m.level → m.log args error s = (pure (), s)) ∧
      (s.minLevel ≤ m.level →
        (m.log args error s).1.started = formatted ++ error.toList)) ∧
    (∀ s : JsonLines,
      (¬ s.minLevel ≤ m.level → m.log args error s = (pure (), s)) ∧
      (s.minLevel ≤ m.level → (m.log args error s).1.started =
        (if s.messages then formatted else []) ++ formatted ++ unformatted ++ error.toList)) ∧
    ∀ s : Memory,
      (s.minLevel.any (· ≤ m.level) = false →
        m.log args error s = (pure (), { s with queries := s.queries + 1 })) ∧
      (s.minLevel.any (· ≤ m.level) = true → (m.log args error s).1.started =
        formatted ++ unformatted ++ (if s.rendering then formatted else []) ++ error.toList) := by
  intro formatted unformatted
  have hd := defined_of_define level event h
  have hentry : (m.entry args error).fails true = false := hd.fails_entry_eq_false hargs herror
  have hmessage : Rendering.started (m.entry args error).message = formatted :=
    hd.started_rendering hargs
  have hstate : Value.displays ((m.entry args error).state.pairs.map Pair.value) =
      formatted ++ unformatted := by
    rw [← m.displays_toList args]
    exact m.displays_state args
  have hfields : Value.displays ((m.entry args error).state.fields.map Pair.value) =
      formatted ++ unformatted := by
    rw [← m.displays_toList args]
    exact displays_fields hnames args
  refine ⟨fun s => ⟨fun hlevel => ?_, fun hlevel => ?_⟩,
    fun s => ⟨fun hlevel => ?_, fun hlevel => ?_⟩, fun s => ⟨fun hlevel => ?_, fun hlevel => ?_⟩⟩
  · exact m.log_of_disabled args error (decide_eq_false hlevel)
  · rw [TextLines.writesLines.message_log_fst, if_pos hlevel, Device.answer,
      TextLines.line_started hentry, hmessage]
    rfl
  · exact m.log_of_disabled args error (decide_eq_false hlevel)
  · rw [JsonLines.writesLines.message_log_fst, if_pos hlevel, Device.answer,
      JsonLines.line_started hentry, hmessage, hfields]
    simp [entry]
  · exact m.log_of_disabled args error hlevel
  · rw [Memory.message_log_fst, if_pos hlevel, Observed.map_eq, Entry.capture_started hentry,
      hmessage, hstate]
    rfl

/-- The first of two display objects is formatted. -/
theorem log_displays_needed_greeting :
    let m : Message 2 :=
      ⟨.info, ⟨7, none⟩, ⟨"hi \x7buser\x7d", [.literal 0 "hi ", .slot 0], ["user"]⟩,
        #v["user", "detail"]⟩
    let user : Displayed := ⟨["al", "ice"], false⟩
    let detail : Displayed := ⟨["x"], false⟩
    let late : Displayed := ⟨["late"], false⟩
    let args : Vector Value 2 := #v[.display user, .display detail]
    let text : TextLines := { device := .perfect }
    let json : JsonLines := { device := .perfect }
    let memory : Memory := {}
    define 2 .info ⟨7, none⟩ "hi \x7buser\x7d" ["detail"] = .ok m ∧
    originalFormat ∉ m.names.toList ∧ (∀ v ∈ args.toList, v.fails = false) ∧
    (∀ object ∈ some late, object.fails = false) ∧
    (m.log args (some late) text).1.started = [user, late] ∧
    (m.log args (some late) json).1.started = [user, user, detail, late] ∧
    (m.log args (some late) memory).1.started = [user, detail, user, late] ∧
    m.log args (some late) { text with minLevel := .error } =
      (pure (), { text with minLevel := .error }) := by
  intro m user detail late args text json memory
  have h : define 2 .info ⟨7, none⟩ "hi \x7buser\x7d" ["detail"] = .ok m := rfl
  have hnames : originalFormat ∉ m.names.toList := by decide
  have hargs : ∀ v ∈ args.toList, v.fails = false := by
    simp [args, user, detail, Value.fails_display]
  have herror : ∀ object ∈ some late, object.fails = false := by
    simp [late]
  obtain ⟨htext, hjson, hmemory⟩ := log_displays_needed h hnames hargs herror
  exact ⟨h, hnames, hargs, herror, (htext text).2 (by decide), (hjson json).2 (by decide),
    (hmemory memory).2 (by decide), (htext _).1 (by decide)⟩

end StructuredLog.Message
