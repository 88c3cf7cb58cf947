import StructuredLog.Decimal.Reading
import StructuredLog.Text.Hex
import StructuredLog.Yaml.Token

/-!
# The meaning of YAML scalars

A plain scalar without a tag means what its text looks like; any other scalar is a text. The
standard tags ask for one meaning and refuse a scalar that does not have it.
-/

namespace StructuredLog.Yaml

inductive Scalar
  | null
  | bool (b : Bool)
  | int (n : Int)
  | float (x : Float)
  | str (s : String)
  deriving Repr

/-- Scalars are equal by type and content, and there is only one float that is no number. -/
instance : BEq Scalar where
  beq
    | .null, .null => true
    | .bool a, .bool b => a == b
    | .int a, .int b => a == b
    | .float a, .float b => a == b || (a.isNaN && b.isNaN)
    | .str a, .str b => a == b
    | _, _ => false

namespace Scalar

def isNull (s : String) : Bool :=
  s.isEmpty || ["null", "Null", "NULL", "~"].contains s

def bool? (s : String) : Option Bool :=
  if ["true", "True", "TRUE"].contains s then some true
  else if ["false", "False", "FALSE"].contains s then some false
  else none

/-- Digits after a leading zero make a text, not a number. -/
def isPadded (s : List Char) : Bool :=
  let digits := match s with
    | '-' :: rest => rest
    | '+' :: rest => rest
    | _ => s
  digits.head? == some '0' && 1 < digits.length && digits.all Char.isDigit

/-- The number with these digits in base two, eight, ten or sixteen. -/
def digits? (base : Nat) (s : List Char) : Option Nat :=
  let values := s.filterMap fun c => (Text.hexDigit? c).filter (· < base)
  if s.isEmpty || values.length < s.length then none
  else some (values.foldl (fun n d => base * n + d) 0)

/-- An integer without its sign. -/
def unsigned? : List Char → Option Nat
  | '0' :: 'x' :: rest => digits? 16 rest
  | '0' :: 'o' :: rest => digits? 8 rest
  | '0' :: 'b' :: rest => digits? 2 rest
  | s => if isPadded s then none else digits? 10 s

/-- An integer of at most 128 bits. -/
def int? (s : List Char) : Option Int :=
  match s with
  | '-' :: rest => (unsigned? rest).bind fun n => if n ≤ Nat.pow 2 127 then some (-n) else none
  | '+' :: rest => (unsigned? rest).bind fun n => if n < Nat.pow 2 128 then some n else none
  | _ => (unsigned? s).bind fun n => if n < Nat.pow 2 128 then some n else none

/-- A finite decimal, or one of the three names. -/
def float? (s : List Char) : Option Float :=
  let size := match s with
    | '+' :: rest => rest
    | _ => s
  let signed := match size with
    | '+' :: _ => true
    | '-' :: _ => size.length < s.length
    | _ => false
  if signed then none
  else if [".inf", ".Inf", ".INF"].contains (String.ofList size) then some (1.0 / 0.0)
  else if ["-.inf", "-.Inf", "-.INF"].contains (String.ofList s) then some (-1.0 / 0.0)
  else if [".nan", ".NaN", ".NAN"].contains (String.ofList s) then some (0.0 / 0.0)
  else (Decimal.float? size).filter Float.isFinite

/-- What the text of a plain scalar looks like. -/
def ofPlain (s : String) : Scalar :=
  let cs := s.toList
  if isNull s then .null
  else match bool? s, int? cs with
    | some b, _ => .bool b
    | none, some n => .int n
    | none, none =>
      match if isPadded cs then none else float? cs with
      | some x => .float x
      | none => .str s

/-- The meaning of a scalar with its tag; none if they contradict each other. -/
def read? (tag : Option Tag) (style : Style) (text : String) : Option Scalar :=
  let untagged := if style = .plain then ofPlain text else .str text
  match tag with
  | none => some untagged
  | some tag =>
    if tag = Tag.standard "bool" then (bool? text).map .bool
    else if tag = Tag.standard "int" then (int? text.toList).map .int
    else if tag = Tag.standard "float" then (float? text.toList).map .float
    else if tag = Tag.standard "null" then
      if isNull text && !text.isEmpty then some .null else none
    else if tag.isLocal then some untagged
    else some (.str text)

end Scalar

end StructuredLog.Yaml
