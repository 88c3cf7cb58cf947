import StructuredLog.Decimal.Layout

/-!
# Floats in pieces

A float in plain form is written in pieces: its sign, then its digits, which are cut at the point,
and the zeros that fill up their place. The pieces together are its plain text.
-/

namespace StructuredLog.Decimal

/-! ## Zeros -/

def zeros (n : Nat) : String :=
  String.ofList (List.replicate n '0')

/-- Zeros in pieces of 64, the last of them with what is left. -/
def zeroPieces (n : Nat) : List String :=
  List.replicate ((n - 1) / 64) (zeros 64) ++ if n = 0 then [] else [zeros ((n - 1) % 64 + 1)]

theorem flatMap_toList_zeroPieces (n : Nat) :
    (zeroPieces n).flatMap String.toList = List.replicate n '0' := by
  have hfull (k : Nat) : (List.replicate k (zeros 64)).flatMap String.toList =
      List.replicate (k * 64) '0' := by
    rw [List.flatMap_replicate, zeros, String.toList_ofList, List.flatten_replicate_replicate]
  rw [zeroPieces, List.flatMap_append, hfull]
  cases n with
  | zero => rfl
  | succ n =>
    have hsize : n / 64 * 64 + (n % 64 + 1) = n + 1 := by omega
    simp [zeros, List.replicate_append_replicate, hsize]

/-! ## Numerals -/

/-- A positive decimal in pieces. Its point stands before its digits, between them or behind them;
behind them it is not written. -/
def Numeral.pieces (d : Numeral) : List String :=
  let digits := Nat.toDigits 10 d.digits
  let point := (digits.length : Int) + d.exponent
  if point ≤ 0 then "0." :: zeroPieces (-point).toNat ++ [String.ofList digits]
  else if point < digits.length then
    [String.ofList (digits.take point.toNat), ".", String.ofList (digits.drop point.toNat)]
  else String.ofList digits :: zeroPieces (point - digits.length).toNat

theorem Numeral.join_pieces (d : Numeral) : String.join d.pieces = plain.written d := by
  have hdigits : 0 < (Nat.toDigits 10 d.digits).length := Nat.length_toDigits_pos
  apply String.toList_inj.mp
  rw [pieces, Layout.written]
  generalize Nat.toDigits 10 d.digits = digits at hdigits ⊢
  dsimp only
  by_cases hwhole : 0 ≤ d.exponent
  · have hpoint : ¬(digits.length : Int) + d.exponent ≤ 0 := by omega
    have hbehind : ¬(digits.length : Int) + d.exponent < digits.length := by omega
    have hzeros : (digits.length : Int) + d.exponent - digits.length = d.exponent := by omega
    rw [if_neg hpoint, if_neg hbehind, if_pos hwhole, hzeros]
    simp [plain, flatMap_toList_zeroPieces]
  · have hbetween : (digits.length : Int) + d.exponent < digits.length := by omega
    rw [if_neg hwhole]
    by_cases hpoint : (digits.length : Int) + d.exponent ≤ 0
    · rw [if_pos hpoint, if_neg (Int.not_lt.mpr hpoint)]
      simp [flatMap_toList_zeroPieces]
    · rw [if_neg hpoint, if_pos hbetween, if_pos (Int.not_le.mp hpoint)]
      simp

/-- 3.5, 1200 and 0.007. -/
example : [⟨35, -1⟩, ⟨12, 2⟩, ⟨7, -3⟩].map Numeral.pieces =
    [["3", ".", "5"], ["12", "00"], ["0.", "00", "7"]] := by
  decide

/-! ## Floats -/

/-- A float in plain form. -/
def pieces (x : Float) : List String :=
  let sign := if isNegative x then ["-"] else []
  match magnitude x with
  | .nan => ["NaN"]
  | .infinite => sign ++ ["inf"]
  | .finite 0 _ => sign ++ ["0"]
  | .finite m q => sign ++ (shortest .up m q).pieces

theorem join_pieces (x : Float) : String.join (pieces x) = plain.float x := by
  have hsign (rest : List String) : String.join ((if isNegative x then ["-"] else []) ++ rest) =
      (if isNegative x then "-" else "") ++ String.join rest := by
    rw [String.join_append]
    split <;> rfl
  rw [pieces, Layout.float]
  cases magnitude x with
  | nan => rfl
  | infinite => exact hsign ["inf"]
  | finite m q =>
    cases m with
    | zero => exact hsign ["0"]
    | succ m => exact (hsign _).trans (congrArg _ (shortest .up (m + 1) q).join_pieces)

end StructuredLog.Decimal
