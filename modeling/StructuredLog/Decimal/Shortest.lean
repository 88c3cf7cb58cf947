/-!
# The shortest decimal that reads back

A binary fraction `mantissa * 2 ^ exponent` owns the interval of numbers that round to it. Among
the decimals in this interval `shortest` takes one with the fewest digits, and of those the one
nearest to the fraction.
-/

namespace StructuredLog.Decimal

/-- Which of two equally near neighbours is taken. -/
inductive Tie
  | up
  | toEven
  deriving DecidableEq, Repr

/-- The number `digits * 10 ^ exponent`. -/
structure Numeral where
  digits : Nat
  exponent : Int
  deriving DecidableEq, Repr

/-! ## Floats as binary fractions -/

/-- What a 64-bit float denotes. -/
inductive Magnitude
  | nan
  | infinite
  | finite (mantissa : Nat) (exponent : Int)
  deriving DecidableEq, Repr

/-- Is the sign bit set? -/
def isNegative (x : Float) : Bool :=
  x.toBits.toNat / Nat.pow 2 63 == 1

/-- The exact size of a float, its sign left out. -/
def magnitude (x : Float) : Magnitude :=
  let bits : Nat := x.toBits.toNat
  let fraction : Nat := bits % Nat.pow 2 52
  let scale : Nat := bits / Nat.pow 2 52 % Nat.pow 2 11
  if scale = 2047 then (if fraction = 0 then .infinite else .nan)
  else if scale = 0 then .finite fraction (-1074)
  else .finite (Nat.pow 2 52 + fraction) (Int.ofNat scale - 1075)

/-! ## The rounding interval -/

/-- The interval of a fraction: in units of a quarter of its last place it reaches from
`center - below` to `center + above`, with its ends when `closed`. -/
structure Interval where
  center : Nat
  below : Nat
  above : Nat
  closed : Bool
  deriving DecidableEq, Repr

/-- Below a power of two the floats lie twice as close. -/
def Interval.of (mantissa : Nat) (exponent : Int) : Interval where
  center := 4 * mantissa
  below := if mantissa = Nat.pow 2 52 ∧ -1074 < exponent then 1 else 2
  above := 2
  closed := mantissa % 2 == 0

/-- An interval in units of `1 / scale`, beside a grid with `step` units between its points. -/
structure Grid where
  interval : Interval
  scale : Nat
  step : Nat

/-- The interval of `mantissa * 2 ^ exponent` beside the multiples of `10 ^ place`. -/
def Grid.of (mantissa : Nat) (exponent place : Int) : Grid where
  interval := Interval.of mantissa exponent
  scale := Nat.pow 2 (exponent - 2).toNat * Nat.pow 10 (-place).toNat
  step := Nat.pow 2 (2 - exponent).toNat * Nat.pow 10 place.toNat

/-- Does point number `k` of the grid lie in the interval? -/
def Grid.hits (g : Grid) (k : Nat) : Bool :=
  let low := (g.interval.center - g.interval.below) * g.scale
  let high := (g.interval.center + g.interval.above) * g.scale
  if g.interval.closed then low ≤ k * g.step && k * g.step ≤ high
  else low < k * g.step && k * g.step < high

/-- The last grid point that does not exceed the center. -/
def Grid.floor (g : Grid) : Nat :=
  g.interval.center * g.scale / g.step

/-- The nearer of the two grid points around the center. -/
def Grid.nearest (tie : Tie) (g : Grid) : Nat :=
  let k := g.floor
  match compare (2 * (g.interval.center * g.scale)) ((2 * k + 1) * g.step), tie with
  | .lt, _ => k
  | .gt, _ => k + 1
  | .eq, .up => k + 1
  | .eq, .toEven => if k % 2 = 0 then k else k + 1

/-- The point of the grid that stands for the fraction, if one lies in its interval. -/
def Grid.pick (tie : Tie) (g : Grid) : Option Nat :=
  let k := g.floor
  match g.hits k, g.hits (k + 1) with
  | true, true => some (g.nearest tie)
  | true, false => some k
  | false, true => some (k + 1)
  | false, false => none

/-! ## Searching the grids -/

/-- A place above the leading digit of `mantissa * 2 ^ exponent`. -/
def leadingPlace (mantissa : Nat) (exponent : Int) : Int :=
  ((mantissa.log2 : Int) + 1 + exponent) * 30103 / 100000 + 2

/-- Goes from coarse grids to fine ones and stops at the first with a point in the interval. -/
def search (tie : Tie) (mantissa : Nat) (exponent : Int) : Nat → Int → Numeral
  | 0, place => ⟨(Grid.of mantissa exponent place).nearest tie, place⟩
  | fuel + 1, place =>
    match (Grid.of mantissa exponent place).pick tie with
    | some k => ⟨k, place⟩
    | none => search tie mantissa exponent fuel (place - 1)

/-- The shortest decimal for a positive fraction. Seventeen digits always suffice, and the search
begins at most four places above the first of them. -/
def shortest (tie : Tie) (mantissa : Nat) (exponent : Int) : Numeral :=
  search tie mantissa exponent 21 (leadingPlace mantissa exponent)

end StructuredLog.Decimal
