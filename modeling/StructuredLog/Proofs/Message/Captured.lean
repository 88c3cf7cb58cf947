import StructuredLog.Proofs.Entry.Captured
import StructuredLog.Proofs.Message.Lookup
import StructuredLog.Proofs.Message.Rendering

/-!
# What is captured of calls

The pairs of a call are captured from its arguments. Only an argument or the error can fail, if the
message could be defined.
-/

namespace StructuredLog.Message

variable {arity : Nat} (m : Message arity) (args : Vector Value arity)

/-- The pairs with which a call is remembered: its arguments, then its template. -/
def capturedPairs : List CapturedPair :=
  List.zipWith (fun name value => ⟨name, value.captured⟩) m.names.toList args.toList ++
    [⟨originalFormat, .str m.template.original⟩]

theorem captured_state : (m.state args).captured = m.capturedPairs args := by
  rw [View.captured, pairs_state, List.map_append, argumentPairs, List.map_zipWith]
  rfl

theorem map_value_argumentPairs : (m.argumentPairs args).map Pair.value = args.toList :=
  View.map_value_zipWith (by simp)

theorem fails_state : (m.state args).fails = args.toList.any Value.fails := by
  have harguments : (m.argumentPairs args).any (fun pair => pair.value.fails) =
      args.toList.any Value.fails := by
    rw [← m.map_value_argumentPairs args, List.any_map]
    rfl
  rw [View.fails, pairs_state, List.any_append, harguments]
  exact Bool.or_false _

/-- What can fail in a call: a value of an argument, its message if it is asked for, its error. -/
theorem fails_entry_iff (error : Option Displayed) (messages : Bool) :
    (m.entry args error).fails messages = true ↔
      (∃ v ∈ args.toList, v.fails = true) ∨
      (messages = true ∧ Rendering.completes (m.rendering args) = false) ∨
      ∃ object ∈ error, object.fails = true := by
  have hstate : (m.entry args error).state.fails = args.toList.any Value.fails :=
    m.fails_state args
  have hmessage : (m.entry args error).messageFails = !Rendering.completes (m.rendering args) := rfl
  have herror : (m.entry args error).errorFails = error.any Displayed.fails := rfl
  rw [Entry.fails, hstate, hmessage, herror]
  simp only [Bool.or_eq_true, Bool.and_eq_true, Bool.not_eq_true', List.any_eq_true,
    Option.any_eq_true, Option.mem_def, or_assoc]

variable {m args} {level : Level} {event : EventId} {template : String} {unformatted : List String}

/-- The values of the slots are arguments. -/
theorem Defined.fails_of_mem_take (h : Defined arity level event template unformatted m)
    (hargs : ∀ v ∈ args.toList, v.fails = false) :
    ∀ v ∈ (m.state args).values.toList.take m.template.arity, v.fails = false := by
  rw [h.take_values_state]
  exact fun v hv => hargs v (List.mem_of_mem_take hv)

theorem Defined.completes_rendering (h : Defined arity level event template unformatted m)
    (hargs : ∀ v ∈ args.toList, v.fails = false) :
    Rendering.completes (m.rendering args) = true := by
  rw [rendering, Template.completes_rendering_iff h.compile_eq (h.arity_le_count_state args)]
  exact h.fails_of_mem_take hargs

/-- If no argument fails, only the error can. -/
theorem Defined.fails_entry (h : Defined arity level event template unformatted m)
    (hargs : ∀ v ∈ args.toList, v.fails = false) (error : Option Displayed) :
    (m.entry args error).fails true = error.any Displayed.fails := by
  have hstate : (m.entry args error).state.fails = false := by
    show (m.state args).fails = false
    rw [fails_state, List.any_eq_false]
    simpa using hargs
  have hmessage : (m.entry args error).messageFails = false := by
    show (!Rendering.completes (m.rendering args)) = false
    rw [h.completes_rendering hargs]
    rfl
  rw [Entry.fails, hstate, hmessage]
  rfl

theorem Defined.fails_entry_eq_false (h : Defined arity level event template unformatted m)
    (hargs : ∀ v ∈ args.toList, v.fails = false) {error : Option Displayed}
    (herror : ∀ object ∈ error, object.fails = false) :
    (m.entry args error).fails true = false := by
  rw [h.fails_entry hargs, Option.any_eq_false]
  exact herror

end StructuredLog.Message
