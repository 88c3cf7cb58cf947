import StructuredLog.Proofs.Template.Slots
import StructuredLog.Proofs.View.Positions

/-!
# Rendering calls

The text of a call is the template with its formatted arguments, those of the slots. A definition
makes sure that there are enough of them, so neither the unformatted arguments nor the template
behind them are ever looked at.
-/

namespace StructuredLog.Message

variable {arity : Nat} {level : Level} {event : EventId} {template : String}
  {unformatted : List String} {m : Message arity}

theorem Defined.arity_template_le (h : Defined arity level event template unformatted m) :
    m.template.arity ≤ arity := by
  have hlength := congrArg List.length h.names_eq
  simp only [Vector.length_toList, List.length_append] at hlength
  rw [Template.arity]
  omega

/-! ## The arguments of the slots -/

/-- The arguments that the slots take. -/
def formatted (m : Message arity) (args : Vector Value arity) : List Value :=
  args.toList.take m.template.arity

/-- The arguments under their names, with any pair behind them. -/
def stateWith (m : Message arity) (args : Vector Value arity) (last : Pair) : View :=
  (View.zip m.names args).push last

theorem positional_stateWith (m : Message arity) (args : Vector Value arity) (last : Pair) :
    (m.stateWith args last).Positional m.names args [last] :=
  View.positional_push_zip m.names args last

theorem Defined.length_formatted (h : Defined arity level event template unformatted m)
    (args : Vector Value arity) : (m.formatted args).length = m.template.arity := by
  rw [formatted, List.length_take, Vector.length_toList, Nat.min_eq_left h.arity_template_le]

theorem Defined.take_values_stateWith (h : Defined arity level event template unformatted m)
    (args : Vector Value arity) (last : Pair) :
    (m.stateWith args last).values.toList.take m.template.arity = m.formatted args := by
  have hle : m.template.arity ≤ args.toList.length := by
    rw [Vector.length_toList]
    exact h.arity_template_le
  rw [(m.positional_stateWith args last).toList_values_eq, formatted,
    List.take_append_of_le_length hle]

theorem Defined.arity_le_count (h : Defined arity level event template unformatted m)
    (args : Vector Value arity) (last : Pair) :
    m.template.arity ≤ (m.stateWith args last).values.count := by
  rw [(m.positional_stateWith args last).count_values_eq]
  exact Nat.le_add_right_of_le h.arity_template_le

theorem Defined.rendering_stateWith (h : Defined arity level event template unformatted m)
    (args : Vector Value arity) (last : Pair) :
    m.template.rendering (m.stateWith args last).values =
      m.template.rendering (.ofList (m.formatted args)) := by
  have hlength := h.length_formatted args
  refine Template.rendering_congr h.compile_eq (h.arity_le_count args last) ?_ ?_
  · exact Nat.le_of_eq hlength.symm
  · rw [h.take_values_stateWith, Indexed.toList_ofList, List.take_of_length_le (by omega)]

theorem Defined.take_values_state (h : Defined arity level event template unformatted m)
    (args : Vector Value arity) :
    (m.state args).values.toList.take m.template.arity = m.formatted args :=
  h.take_values_stateWith args ⟨originalFormat, .str m.template.original⟩

theorem Defined.arity_le_count_state (h : Defined arity level event template unformatted m)
    (args : Vector Value arity) : m.template.arity ≤ (m.state args).values.count :=
  h.arity_le_count args ⟨originalFormat, .str m.template.original⟩

/-! ## The text of a call -/

/-- A call is rendered by its formatted arguments alone: all values are there, only these arguments
are used, and only their failures are failures of the call. -/
structure RenderedByFormatted (m : Message arity) (args : Vector Value arity) : Prop where
  rendering_eq : m.rendering args = m.template.rendering (.ofList (m.formatted args))
  deliver_eq : ∀ {σ : Type} (accept : σ → String → Option σ) (s : σ),
    Rendering.deliver accept s (m.rendering args) =
      Rendering.deliver accept s (m.template.rendering (.ofList (m.formatted args)))
  checkValues_eq : m.template.checkValues (m.state args).values = .ok ()
  at?_slot : ∀ i, .slot i ∈ m.template.segments →
    ∃ v, (m.formatted args)[i]? = some v ∧ (m.state args).values.at? i = some v
  completes_iff : Rendering.completes (m.rendering args) = true ↔
    ∀ v ∈ m.formatted args, v.fails = false
  deliver_snd_iff : ∀ {σ : Type} (accept : σ → String → Option σ) (s : σ),
    (∀ s piece, (accept s piece).isSome = true) →
      ((Rendering.deliver accept s (m.rendering args)).2 = true ↔
        ∀ v ∈ m.formatted args, v.fails = false)
  rendering_congr : ∀ args' : Vector Value arity, m.formatted args' = m.formatted args →
    m.rendering args' = m.rendering args
  rendering_last : ∀ last : Pair,
    m.template.rendering (m.stateWith args last).values = m.rendering args

/-- Every call of a message that could be defined is rendered by its formatted arguments. -/
theorem define_renders_formatted (arity : Nat) (level : Level) (event : EventId) (template : String)
    (unformatted : List String) (m : Message arity)
    (h : define arity level event template unformatted = .ok m) (args : Vector Value arity) :
    m.RenderedByFormatted args := by
  have hd := defined_of_define level event h
  let last : Pair := ⟨originalFormat, .str m.template.original⟩
  have hcount := hd.arity_le_count_state args
  have htake := hd.take_values_state args
  have heq (args' : Vector Value arity) :
      m.rendering args' = m.template.rendering (.ofList (m.formatted args')) :=
    hd.rendering_stateWith args' last
  have hcompletes : Rendering.completes (m.rendering args) = true ↔
      ∀ v ∈ m.formatted args, v.fails = false := by
    rw [← htake]
    exact Template.completes_rendering_iff hd.compile_eq hcount
  refine ⟨heq args, ?_, Template.checkValues_eq_ok hcount, ?_, hcompletes, ?_, ?_, ?_⟩
  · intro σ accept s
    rw [heq]
  · intro i hi
    have hlt : i < m.template.arity := (Template.slot_mem_segments_iff hd.compile_eq i).mp hi
    have hlength : i < (m.formatted args).length := by
      rw [hd.length_formatted]
      exact hlt
    refine ⟨(m.formatted args)[i], List.getElem?_eq_getElem hlength, ?_⟩
    rw [← Indexed.getElem?_toList, ← List.getElem?_take_of_lt hlt, htake,
      List.getElem?_eq_getElem hlength]
  · intro σ accept s haccept
    rw [Rendering.deliver_snd_of_accepting haccept, hcompletes]
  · intro args' hargs
    rw [heq, heq, hargs]
  · intro last'
    rw [heq, hd.rendering_stateWith]

/-- The unformatted argument fails when it is displayed, and is not. -/
theorem define_renders_formatted_greeting :
    ∃ m, define 2 .info ⟨7, none⟩ "hi \x7buser\x7d" ["detail"] = .ok m ∧
      m.RenderedByFormatted #v[.str "alice", .display ⟨["half"], true⟩] := by
  have h : define 2 .info ⟨7, none⟩ "hi \x7buser\x7d" ["detail"] =
      .ok ⟨.info, ⟨7, none⟩, ⟨"hi \x7buser\x7d", [.literal 0 "hi ", .slot 0], ["user"]⟩,
        #v["user", "detail"]⟩ := rfl
  exact ⟨_, h, define_renders_formatted _ _ _ _ _ _ h _⟩

end StructuredLog.Message
