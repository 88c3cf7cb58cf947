import StructuredLog.Decimal.Shortest

/-! # Written forms of floats -/

namespace StructuredLog.Decimal

/-- The choices of a float format. -/
structure Layout where
  tie : Tie
  /-- The powers of ten of the leading digit that are written without an exponent; `none` means
  all of them. -/
  positional : Option (Int × Int)
  /-- Whole numbers keep one decimal. -/
  keepsPoint : Bool
  /-- A positive exponent has a sign. -/
  signsExponent : Bool

/-- Never an exponent and never an empty fraction. -/
def plain : Layout := ⟨.up, none, false, false⟩

/-- From `1e-4` to below `1e16` positional with a point, else with an exponent. -/
def exact : Layout := ⟨.up, some (-4, 16), true, false⟩

/-- From `1e-5` to below `1e16` positional with a point, else with a signed exponent. -/
def json : Layout := ⟨.toEven, some (-5, 16), true, true⟩

/-- A decimal without an exponent. -/
def Layout.written (l : Layout) (d : Numeral) : String :=
  let digits := Nat.toDigits 10 d.digits
  let zeros (n : Int) := List.replicate n.toNat '0'
  let point := (digits.length : Int) + d.exponent
  if 0 ≤ d.exponent then
    String.ofList (digits ++ zeros d.exponent) ++ (if l.keepsPoint then ".0" else "")
  else if 0 < point then
    String.ofList (digits.take point.toNat ++ '.' :: digits.drop point.toNat)
  else
    String.ofList ('0' :: '.' :: zeros (-point) ++ digits)

/-- A decimal with one digit before the point and an exponent. -/
def Layout.scientific (l : Layout) (d : Numeral) : String :=
  let digits := Nat.toDigits 10 d.digits
  let power := (digits.length : Int) + d.exponent - 1
  let mantissa := match digits with
    | [] => []
    | [first] => [first]
    | first :: rest => first :: '.' :: rest
  let sign := if power < 0 then "-" else if l.signsExponent then "+" else ""
  String.ofList mantissa ++ "e" ++ sign ++ toString power.natAbs

/-- A positive decimal. -/
def Layout.decimal (l : Layout) (d : Numeral) : String :=
  let power := ((Nat.toDigits 10 d.digits).length : Int) + d.exponent - 1
  match l.positional with
  | none => l.written d
  | some (low, high) => if low ≤ power && power < high then l.written d else l.scientific d

/-- The text of a float. -/
def Layout.float (l : Layout) (x : Float) : String :=
  let sign := if isNegative x then "-" else ""
  match magnitude x with
  | .nan => "NaN"
  | .infinite => sign ++ "inf"
  | .finite 0 _ => sign ++ l.written ⟨0, 0⟩
  | .finite m q => sign ++ l.decimal (shortest l.tie m q)

end StructuredLog.Decimal
