import StructuredLog.Json.Printer

/-!
# JSON on one line

Whatever texts a value holds, as texts or as keys at any depth, what is written of it has no control
character. So there is no line break in it.
-/

namespace StructuredLog

/-! ## Texts without control characters -/

namespace Text

/-- Characters that come before the blank are control characters. -/
def NoControl (cs : List Char) : Prop :=
  ∀ c ∈ cs, ' '.toNat ≤ c.toNat

instance (cs : List Char) : Decidable (NoControl cs) :=
  List.decidableBAll (fun c : Char => ' '.toNat ≤ c.toNat) cs

variable {cs ds : List Char}

@[simp] theorem noControl_nil : NoControl [] :=
  List.forall_mem_nil _

@[simp] theorem noControl_cons {c : Char} :
    NoControl (c :: cs) ↔ ' '.toNat ≤ c.toNat ∧ NoControl cs :=
  List.forall_mem_cons

@[simp] theorem noControl_append : NoControl (cs ++ ds) ↔ NoControl cs ∧ NoControl ds :=
  List.forall_mem_append

theorem NoControl.not_mem_newline (h : NoControl cs) : '\n' ∉ cs :=
  fun hmem => absurd (h '\n' hmem) (by decide)

theorem noControl_toDigits (n : Nat) : NoControl (Nat.toDigits 10 n) := by
  intro c hc
  have hdigit := Nat.isDigit_of_mem_toDigits (Nat.zero_lt_succ 9) (Nat.le_refl 10) hc
  rw [Char.isDigit, Bool.and_eq_true, decide_eq_true_eq] at hdigit
  exact Nat.le_trans (by decide : ' '.toNat ≤ '0'.toNat) hdigit.1

theorem noControl_repr (n : Nat) : NoControl (toString n).toList := by
  show NoControl (Nat.repr n).toList
  rw [Nat.repr_eq_ofList_toDigits, String.toList_ofList]
  exact noControl_toDigits n

theorem noControl_intRepr (n : Int) : NoControl (toString n).toList := by
  cases n with
  | ofNat n => exact noControl_repr n
  | negSucc n =>
    show NoControl ("-" ++ toString (n + 1)).toList
    rw [String.toList_append, noControl_append]
    exact ⟨by decide, noControl_repr _⟩

end Text

/-! ## Floats -/

namespace Decimal.Layout

open Text

theorem noControl_zeros (n : Nat) : NoControl (List.replicate n '0') := by
  intro c hc
  rw [List.eq_of_mem_replicate hc]
  decide

theorem noControl_written (l : Layout) (d : Numeral) : NoControl (l.written d).toList := by
  have hdigits := noControl_toDigits d.digits
  rw [written]
  dsimp only
  split
  · cases l.keepsPoint <;> simp [hdigits, noControl_zeros]
  split
  · rw [String.toList_ofList, noControl_append, noControl_cons]
    refine ⟨fun c hc => hdigits c (List.mem_of_mem_take hc), by decide, ?_⟩
    exact fun c hc => hdigits c (List.mem_of_mem_drop hc)
  · simp [hdigits, noControl_zeros]

theorem noControl_scientific (l : Layout) (d : Numeral) : NoControl (l.scientific d).toList := by
  have hdigits := noControl_toDigits d.digits
  rw [scientific]
  simp only [String.toList_append, noControl_append, String.toList_ofList]
  refine ⟨⟨⟨?_, by decide⟩, ?_⟩, noControl_repr _⟩
  · split
    · exact noControl_nil
    · rename_i h
      exact h ▸ hdigits
    · rename_i h
      rw [h] at hdigits
      rw [noControl_cons] at hdigits
      exact noControl_cons.mpr ⟨hdigits.1, noControl_cons.mpr ⟨by decide, hdigits.2⟩⟩
  · repeat' split
    all_goals decide

theorem noControl_decimal (l : Layout) (d : Numeral) : NoControl (l.decimal d).toList := by
  rw [decimal]
  split
  · exact l.noControl_written d
  · split
    · exact l.noControl_written d
    · exact l.noControl_scientific d

theorem noControl_float (l : Layout) (x : Float) : NoControl (l.float x).toList := by
  have hsign : NoControl (if isNegative x then "-" else "").toList := by
    split <;> decide
  rw [float]
  split
  · decide
  · rw [String.toList_append, noControl_append]
    exact ⟨hsign, by decide⟩
  · rw [String.toList_append, noControl_append]
    exact ⟨hsign, l.noControl_written _⟩
  · rw [String.toList_append, noControl_append]
    exact ⟨hsign, l.noControl_decimal _⟩

end Decimal.Layout

/-! ## Values -/

namespace Json

open Text

/-- A control character is escaped, and an escape has none. -/
theorem noControl_escapeChar (c : Char) : NoControl (escapeChar c).toList := by
  -- The control characters are few; any other one is escaped by a fixed text or stands for itself.
  have hcontrols : ∀ n < 0x20, NoControl (escapeChar (Char.ofNat n)).toList := by decide
  by_cases hc : c.toNat < 0x20
  · have h := hcontrols c.toNat hc
    rwa [Char.ofNat_toNat] at h
  · have hhex : ¬ c.toNat < 0x10 := fun h => hc (Nat.lt_trans h (by decide))
    have hsingle : NoControl (String.singleton c).toList := by
      rw [String.toList_singleton, noControl_cons]
      exact ⟨Nat.le_of_not_lt hc, noControl_nil⟩
    rw [escapeChar, if_neg hc, if_neg hhex]
    repeat' split
    rotate_right
    · exact hsingle
    all_goals decide

theorem noControl_quote (s : String) : NoControl (quote s).toList := by
  rw [quote, String.toList_append, String.toList_append, String.toList_join, noControl_append,
    noControl_append]
  refine ⟨⟨by decide, ?_⟩, by decide⟩
  rw [List.flatMap_map]
  intro c hc
  obtain ⟨a, -, hc⟩ := List.mem_flatMap.mp hc
  exact noControl_escapeChar a c hc

theorem noControl_numberText (n : Number) : NoControl (numberText n).toList := by
  cases n with
  | int n => exact noControl_intRepr _
  | nat n => exact noControl_repr _
  | float x => exact Decimal.json.noControl_float x

mutual

theorem noControl_render (j : Json) : NoControl j.render.toList := by
  cases j with
  | null => decide
  | bool b => cases b <;> decide
  | number n =>
    rw [render]
    exact noControl_numberText n
  | str s =>
    rw [render]
    exact noControl_quote s
  | array items =>
    simp only [render, String.toList_append, noControl_append]
    exact ⟨⟨by decide, noControl_renderItems items⟩, by decide⟩
  | object members =>
    simp only [render, String.toList_append, noControl_append]
    exact ⟨⟨by decide, noControl_renderMembers members⟩, by decide⟩

theorem noControl_renderItems (items : List Json) : NoControl (renderItems items).toList := by
  match items with
  | [] => decide
  | [item] =>
    rw [renderItems]
    exact noControl_render item
  | item :: next :: rest =>
    simp only [renderItems, String.toList_append, noControl_append]
    exact ⟨⟨noControl_render item, by decide⟩, noControl_renderItems (next :: rest)⟩

theorem noControl_renderMembers (members : Members) :
    NoControl (renderMembers members).toList := by
  match members with
  | [] => decide
  | [(key, value)] =>
    simp only [renderMembers, String.toList_append, noControl_append]
    exact ⟨⟨noControl_quote key, by decide⟩, noControl_render value⟩
  | (key, value) :: next :: rest =>
    simp only [renderMembers, String.toList_append, noControl_append]
    exact ⟨⟨⟨⟨noControl_quote key, by decide⟩, noControl_render value⟩, by decide⟩,
      noControl_renderMembers (next :: rest)⟩

end

end Json

end StructuredLog
