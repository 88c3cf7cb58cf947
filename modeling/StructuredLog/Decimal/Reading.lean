/-! # Reading decimals as floats -/

namespace StructuredLog.Decimal

/-- The value of a list of decimal digits. -/
def digitsValue (digits : List Char) : Nat :=
  digits.foldl (fun n c => 10 * n + (c.toNat - '0'.toNat)) 0

/-- The float nearest to `digits * 10 ^ exponent`. Beyond four hundred places the result is zero or
infinite, so the power itself is not needed. -/
def toFloat (digits : Nat) (exponent : Int) : Float :=
  if digits = 0 then 0
  else
    let places := ((Nat.toDigits 10 digits).length : Int) + exponent
    if places > 400 then 1.0 / 0.0
    else if places < -400 then 0
    else Float.ofScientific digits (exponent < 0) exponent.natAbs

/-- Digits behind an optional sign. -/
def integer? (s : List Char) : Option Int :=
  let (negative, digits) := match s with
    | '-' :: rest => (true, rest)
    | '+' :: rest => (false, rest)
    | _ => (false, s)
  if digits.isEmpty || !digits.all Char.isDigit then none
  else some (if negative then -digitsValue digits else digitsValue digits)

/-- The exponent behind a numeral's digits, zero if there is none. -/
def exponent? : List Char → Option Int
  | [] => some 0
  | c :: rest => if c = 'e' || c = 'E' then integer? rest else none

/-- Reads a decimal without a sign. Digits must stand before or behind the point. -/
def positive? (s : List Char) : Option Float :=
  let whole := s.takeWhile Char.isDigit
  let rest := s.dropWhile Char.isDigit
  let (fraction, rest) := match rest with
    | '.' :: rest => (rest.takeWhile Char.isDigit, rest.dropWhile Char.isDigit)
    | _ => ([], rest)
  if whole.isEmpty && fraction.isEmpty then none
  else (exponent? rest).map fun exponent =>
    toFloat (digitsValue (whole ++ fraction)) (exponent - fraction.length)

/-- Reads a decimal with an optional sign, fraction and exponent. -/
def float? : List Char → Option Float
  | '-' :: rest => (positive? rest).map fun x => -x
  | '+' :: rest => positive? rest
  | s => positive? s

end StructuredLog.Decimal
