import StructuredLog.Rendering
import StructuredLog.Decimal.Pieces

/-!
# Values

A value is one typed argument of a log call, as it is seen at run time.
-/

namespace StructuredLog

inductive Number
  | int (n : Int64)
  | nat (n : UInt64)
  | float (x : Float)
  deriving Repr

/-- Numbers of different types are never equal; floats compare as floats. -/
instance : BEq Number where
  beq
    | .int a, .int b => a == b
    | .nat a, .nat b => a == b
    | .float a, .float b => a == b
    | _, _ => false

def Number.text : Number → String
  | .int n => toString n.toInt
  | .nat n => toString n.toNat
  | .float x => Decimal.plain.float x

namespace Number

/-- The sign of an integer is a piece of its own, and so is each part of a float. -/
def pieces : Number → List String
  | .int n => (if n.toInt < 0 then ["-"] else []) ++ [toString n.toInt.natAbs]
  | .nat n => [toString n.toNat]
  | .float x => Decimal.pieces x

theorem join_pieces (n : Number) : String.join n.pieces = n.text := by
  cases n with
  | int n =>
    show String.join (_ ++ _) = toString n.toInt
    cases n.toInt with
    | ofNat k => rfl
    | negSucc k =>
      rw [if_pos (Int.negSucc_lt_zero k)]
      rfl
  | nat n => exact String.empty_append
  | float x => exact Decimal.join_pieces x

def rendering (n : Number) : Rendering :=
  n.pieces.map .write

@[simp] theorem completes_rendering (n : Number) : Rendering.completes n.rendering = true :=
  Rendering.completes_map_write n.pieces

@[simp] theorem text_rendering (n : Number) : Rendering.text n.rendering = n.text := by
  rw [rendering, Rendering.text_map_write, n.join_pieces]

@[simp] theorem started_rendering (n : Number) : Rendering.started n.rendering = [] :=
  Rendering.started_map_write n.pieces

end Number

inductive Value
  | str (s : String)
  | number (n : Number)
  | bool (b : Bool)
  | char (c : Char)
  | display (object : Displayed)
  | null
  deriving Repr

namespace Value

/-- Values are equal by type and content; a display object equals nothing. -/
instance : BEq Value where
  beq
    | .str a, .str b => a == b
    | .number a, .number b => a == b
    | .bool a, .bool b => a == b
    | .char a, .char b => a == b
    | .null, .null => true
    | _, _ => false

def isNull : Value → Bool
  | .null => true
  | _ => false

def str? : Value → Option String
  | .str s => some s
  | _ => none

def number? : Value → Option Number
  | .number n => some n
  | _ => none

def bool? : Value → Option Bool
  | .bool b => some b
  | _ => none

def char? : Value → Option Char
  | .char c => some c
  | _ => none

def display? : Value → Option Displayed
  | .display object => some object
  | _ => none

/-- Numbers and display objects may be written in several pieces, all other values are written in
one. -/
def rendering : Value → Rendering
  | .str s => [.write s]
  | .number n => n.rendering
  | .bool b => [.write (toString b)]
  | .char c => [.write (String.singleton c)]
  | .display object => object.rendering
  | .null => [.write "null"]

/-- What the value writes, up to its failure if it fails. -/
def text (v : Value) : String :=
  Rendering.text v.rendering

def fails (v : Value) : Bool :=
  !Rendering.completes v.rendering

end Value

end StructuredLog
