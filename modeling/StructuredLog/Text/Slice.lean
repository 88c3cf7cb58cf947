/-!
# Slices of a text

A text is sliced between two byte offsets. The slice is there only if the offsets are in order and
neither of them lies inside a character.
-/

namespace StructuredLog.Text

/-- Does a byte offset lie between two characters, or at an end of the text? -/
def IsBoundary (s : String) (offset : Nat) : Prop :=
  String.Pos.Raw.IsValid s ⟨offset⟩

instance (s : String) (offset : Nat) : Decidable (IsBoundary s offset) :=
  inferInstanceAs (Decidable (String.Pos.Raw.IsValid s ⟨offset⟩))

/-- The text from the offset `start` up to the offset `stop`. -/
def slice? (s : String) (start stop : Nat) : Option String :=
  if h : start ≤ stop ∧ IsBoundary s start ∧ IsBoundary s stop then
    some (s.slice ⟨⟨start⟩, h.2.1⟩ ⟨⟨stop⟩, h.2.2⟩ h.1).copy
  else none

/-- How something that slices texts can break off. -/
inductive Abort (ε : Type)
  /-- It ends with an error of its own. -/
  | error (e : ε)
  /-- It asks for a slice that is not there. -/
  | noSlice (start stop : Nat)
  deriving DecidableEq, Repr

/-- Slices a text or breaks off. -/
def slice {ε : Type} (s : String) (start stop : Nat) : Except (Abort ε) String :=
  match slice? s start stop with
  | some piece => .ok piece
  | none => .error (.noSlice start stop)

end StructuredLog.Text
