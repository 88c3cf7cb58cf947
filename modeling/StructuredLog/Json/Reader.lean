import StructuredLog.Decimal.Reading
import StructuredLog.Json
import StructuredLog.Text.Hex

/-!
# Reading JSON

Numbers without fraction and exponent are integers if they fit into 64 bits, and floats otherwise.
Of several members under one key the last counts.
-/

namespace StructuredLog.Json

/-! ## White space, numbers and texts -/

def skipBlanks (s : List Char) : List Char :=
  s.dropWhile fun c => c == ' ' || c == '\n' || c == '\r' || c == '\t'

/-- The number of an integer that fits. -/
def integer? (n : Int) : Option Number :=
  if 0 ≤ n then (if n < UInt64.size then some (.nat (UInt64.ofNat n.toNat)) else none)
  else if Int64.minValue.toInt ≤ n then some (.int (Int64.ofInt n)) else none

def isNumberChar (c : Char) : Bool :=
  c.isDigit || c == '-' || c == '+' || c == '.' || c == 'e' || c == 'E'

def number? (s : List Char) : Option Number :=
  let float := (Decimal.float? s).map Number.float
  if s.all fun c => c.isDigit || c == '-' then
    if s = ['-', '0'] then float
    else (Decimal.integer? s).bind fun n => (integer? n).or float
  else float

/-- Four hexadecimal digits and what follows them. -/
def fourDigits? (s : List Char) : Option (Nat × List Char) :=
  match s with
  | a :: b :: c :: d :: rest =>
    match [a, b, c, d].mapM Text.hexDigit? with
    | some values => some (values.foldl (fun n d => 16 * n + d) 0, rest)
    | none => none
  | _ => none

/-- The character of two halves above the basic plane. -/
def joinHalves (high low : Nat) : Char :=
  Char.ofNat (0x10000 + (high - 0xd800) * 0x400 + (low - 0xdc00))

/-- A text behind its opening quote, and what follows it. -/
def text? : Nat → List Char → List Char → Option (String × List Char)
  | 0, _, _ => none
  | fuel + 1, done, s =>
    match s with
    | '"' :: rest => some (String.ofList done.reverse, rest)
    | '\\' :: 'u' :: rest =>
      match fourDigits? rest with
      | none => none
      | some (n, rest) =>
        if 0xd800 ≤ n && n ≤ 0xdbff then
          match rest with
          | '\\' :: 'u' :: more =>
            match fourDigits? more with
            | some (low, rest) =>
              if 0xdc00 ≤ low && low ≤ 0xdfff then text? fuel (joinHalves n low :: done) rest
              else none
            | none => none
          | _ => none
        else if 0xdc00 ≤ n && n ≤ 0xdfff then none
        else text? fuel (Char.ofNat n :: done) rest
    | '\\' :: c :: rest =>
      let char? : Option Char := match c with
        | '"' => some '"'
        | '\\' => some '\\'
        | '/' => some '/'
        | 'b' => some '\x08'
        | 'f' => some '\x0c'
        | 'n' => some '\n'
        | 'r' => some '\r'
        | 't' => some '\t'
        | _ => none
      match char? with
      | some c => text? fuel (c :: done) rest
      | none => none
    | c :: rest => if c.toNat < 0x20 then none else text? fuel (c :: done) rest
    | [] => none

/-! ## Values -/

mutual

/-- A value and what follows it. -/
def value? : Nat → List Char → Option (Json × List Char)
  | 0, _ => none
  | fuel + 1, s =>
    match skipBlanks s with
    | 'n' :: 'u' :: 'l' :: 'l' :: rest => some (.null, rest)
    | 't' :: 'r' :: 'u' :: 'e' :: rest => some (.bool true, rest)
    | 'f' :: 'a' :: 'l' :: 's' :: 'e' :: rest => some (.bool false, rest)
    | '"' :: rest => (text? (rest.length + 1) [] rest).map fun (text, rest) => (.str text, rest)
    | '[' :: rest =>
      match skipBlanks rest with
      | ']' :: rest => some (.array [], rest)
      | rest => (items? fuel rest).map fun (items, rest) => (.array items, rest)
    | '{' :: rest =>
      match skipBlanks rest with
      | '}' :: rest => some (.object [], rest)
      | rest => (members? fuel rest).map fun (entries, rest) => (ofEntries entries, rest)
    | s =>
      (number? (s.takeWhile isNumberChar)).map fun n => (.number n, s.dropWhile isNumberChar)

/-- The items of an array up to its end. -/
def items? : Nat → List Char → Option (List Json × List Char)
  | 0, _ => none
  | fuel + 1, s => do
    let (item, rest) ← value? fuel s
    match skipBlanks rest with
    | ',' :: rest =>
      let (items, rest) ← items? fuel rest
      some (item :: items, rest)
    | ']' :: rest => some ([item], rest)
    | _ => none

/-- The members of an object up to its end. -/
def members? : Nat → List Char → Option (List (String × Json) × List Char)
  | 0, _ => none
  | fuel + 1, s => do
    let '"' :: rest := skipBlanks s | none
    let (key, rest) ← text? (rest.length + 1) [] rest
    let ':' :: rest := skipBlanks rest | none
    let (value, rest) ← value? fuel rest
    match skipBlanks rest with
    | ',' :: rest =>
      let (members, rest) ← members? fuel rest
      some ((key, value) :: members, rest)
    | '}' :: rest => some ([(key, value)], rest)
    | _ => none

end

/-- Reads a text that holds one value. -/
def read? (s : String) : Option Json := do
  let cs := s.toList
  let (v, rest) ← value? (cs.length + 1) cs
  if (skipBlanks rest).isEmpty then some v else none

end StructuredLog.Json
