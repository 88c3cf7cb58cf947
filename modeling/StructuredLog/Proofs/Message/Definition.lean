import StructuredLog.Message
import StructuredLog.Proofs.Names.Repeats
import StructuredLog.Proofs.Template.Grammar
import StructuredLog.Proofs.Template.Malformed

/-!
# Defining messages

A definition is checked in a fixed order: its template, then the number of its names, then their
repetition. It succeeds if none of the three objects.
-/

namespace StructuredLog.Message

variable {arity : Nat} (level : Level) (event : EventId) {template : String}

/-! ## One check -/

theorem define_of_compile_eq_error {e : TemplateError}
    (h : Template.compile template = .error e) (unformatted : List String) :
    define arity level event template unformatted = .error (.template e) := by
  rw [define, h]
  rfl

theorem define_of_compile_eq_ok {t : Template} (h : Template.compile template = .ok t)
    (unformatted : List String) :
    define arity level event template unformatted =
      (combinedNames arity t.names unformatted).map fun names =>
        { level, event, template := t, names } := by
  rw [define, h]
  show (combinedNames arity t.names unformatted >>= fun names => pure _) = _
  cases combinedNames arity t.names unformatted <;> rfl

theorem combinedNames_of_ne {formatted unformatted : List String}
    (h : formatted.length + unformatted.length ≠ arity) :
    combinedNames arity formatted unformatted =
      .error (.arityMismatch arity formatted.length unformatted.length) :=
  dif_neg h

theorem combinedNames_of_combine_eq_error {formatted unformatted : List String} {name : String}
    (h : formatted.length + unformatted.length = arity)
    (hc : Names.combine formatted unformatted = .error name) :
    combinedNames arity formatted unformatted = .error (.duplicateName name) := by
  rw [combinedNames, dif_pos h]
  split
  · simp_all
  · simp_all

theorem combinedNames_of_combine_eq_ok {formatted unformatted names : List String}
    (h : formatted.length + unformatted.length = arity)
    (hc : Names.combine formatted unformatted = .ok names) :
    ∃ v, combinedNames arity formatted unformatted = .ok v ∧ v.toList = names := by
  rw [combinedNames, dif_pos h]
  split
  · rename_i names' hc'
    obtain rfl : names' = names := Except.ok.inj (hc'.symm.trans hc)
    exact ⟨_, rfl, rfl⟩
  · simp_all

theorem combinedNames_eq_ok {formatted unformatted : List String} {v : Vector String arity}
    (h : combinedNames arity formatted unformatted = .ok v) :
    v.toList = formatted ++ unformatted ∧ v.toList.Nodup := by
  by_cases hlength : formatted.length + unformatted.length = arity
  · cases hf : Names.firstRepeat [] (formatted ++ unformatted) with
    | some name =>
      rw [combinedNames_of_combine_eq_error hlength (by rw [Names.combine, hf])] at h
      cases h
    | none =>
      obtain ⟨v', hv, hnames⟩ := combinedNames_of_combine_eq_ok hlength
        (show Names.combine formatted unformatted = .ok (formatted ++ unformatted) by
          rw [Names.combine, hf])
      obtain rfl : v = v' := Except.ok.inj (h.symm.trans hv)
      rw [hnames]
      exact ⟨rfl, ((Names.firstRepeat_eq_none_iff [] _).mp hf).1⟩
  · rw [combinedNames_of_ne hlength] at h
    cases h

/-! ## All checks -/

/-- A template that does not compile is reported before anything else, then the number of names,
then the first name that repeats another; a definition without these faults succeeds. -/
theorem define_reports_first_fault (arity : Nat) (level : Level) (event : EventId)
    (template : String) (unformatted : List String) :
    (∀ e, Template.compile template = .error e → (∃ index, e = .malformed template index) ∧
      define arity level event template unformatted = .error (.template e)) ∧
    ∀ t, Template.compile template = .ok t →
      (t.arity + unformatted.length ≠ arity →
        define arity level event template unformatted =
          .error (.arityMismatch arity t.arity unformatted.length)) ∧
      (t.arity + unformatted.length = arity →
        ((∃ i, Names.RepeatsAt (t.names ++ unformatted) i) →
          ∃ i name, (t.names ++ unformatted)[i]? = some name ∧
            Names.RepeatsAt (t.names ++ unformatted) i ∧
            (∀ j < i, ¬Names.RepeatsAt (t.names ++ unformatted) j) ∧
            define arity level event template unformatted = .error (.duplicateName name)) ∧
        ((∀ i, ¬Names.RepeatsAt (t.names ++ unformatted) i) →
          ∃ m, define arity level event template unformatted = .ok m ∧
            m.names.toList = t.names ++ unformatted ∧ m.template.original = template ∧
            m.template = t ∧ m.level = level ∧ m.event = event)) := by
  refine ⟨?_, ?_⟩
  · intro e h
    obtain ⟨offset, -, rfl⟩ := Template.compile_eq_error_iff.mp h
    exact ⟨⟨_, rfl⟩, define_of_compile_eq_error level event h unformatted⟩
  · intro t h
    rw [define_of_compile_eq_ok level event h]
    refine ⟨?_, ?_⟩
    · intro hne
      rw [combinedNames_of_ne hne]
      rfl
    · intro heq
      refine ⟨?_, ?_⟩
      · intro hrepeats
        obtain ⟨i, name, hget, hi, hfirst, hc⟩ := Names.combine_of_repeatsAt hrepeats
        refine ⟨i, name, hget, hi, hfirst, ?_⟩
        rw [combinedNames_of_combine_eq_error heq hc]
        rfl
      · intro hnone
        obtain ⟨v, hv, hnames⟩ := combinedNames_of_combine_eq_ok heq
          (Names.combine_of_forall_not_repeatsAt hnone)
        exact ⟨_, by rw [hv]; rfl, hnames, Template.original_of_compile h, rfl, rfl, rfl⟩

/-- What a message that could be defined consists of. -/
structure Defined (arity : Nat) (level : Level) (event : EventId) (template : String)
    (unformatted : List String) (m : Message arity) : Prop where
  level_eq : m.level = level
  event_eq : m.event = event
  compile_eq : Template.compile template = .ok m.template
  names_eq : m.names.toList = m.template.names ++ unformatted
  names_nodup : m.names.toList.Nodup

theorem defined_of_define {unformatted : List String} {m : Message arity}
    (h : define arity level event template unformatted = .ok m) :
    Defined arity level event template unformatted m := by
  cases hc : Template.compile template with
  | error e =>
    rw [define_of_compile_eq_error level event hc] at h
    cases h
  | ok t =>
    rw [define_of_compile_eq_ok level event hc] at h
    cases hv : combinedNames arity t.names unformatted with
    | error e => rw [hv] at h; cases h
    | ok v =>
      rw [hv] at h
      cases h
      obtain ⟨hnames, hnodup⟩ := combinedNames_eq_ok hv
      exact ⟨rfl, rfl, hc, hnames, hnodup⟩

end StructuredLog.Message
