import StructuredLog.Json
import StructuredLog.Text.Quoted

/-!
# Writing JSON

A value is written without white space. In texts only quotes, backslashes and control characters
are escaped, so no line break of a text is left in what is written.
-/

namespace StructuredLog.Json

/-! ## Scalars -/

/-- One character of a text. -/
def escapeChar (c : Char) : String :=
  if c = '"' then "\\\""
  else if c = '\\' then "\\\\"
  else if c = '\n' then "\\n"
  else if c = '\r' then "\\r"
  else if c = '\t' then "\\t"
  else if c = '\x08' then "\\b"
  else if c = '\x0c' then "\\f"
  else if c.toNat < 0x10 then "\\u000" ++ Text.hex c.toNat
  else if c.toNat < 0x20 then "\\u00" ++ Text.hex c.toNat
  else String.singleton c

def quote (s : String) : String :=
  "\"" ++ String.join (s.toList.map escapeChar) ++ "\""

/-- Floats are finite here. -/
def numberText : Number → String
  | .int n => toString n.toInt
  | .nat n => toString n.toNat
  | .float x => Decimal.json.float x

/-! ## Values -/

mutual

def render : Json → String
  | .null => "null"
  | .bool b => toString b
  | .number n => numberText n
  | .str s => quote s
  | .array items => "[" ++ renderItems items ++ "]"
  | .object members => "\x7b" ++ renderMembers members ++ "\x7d"

def renderItems : List Json → String
  | [] => ""
  | [item] => item.render
  | item :: rest => item.render ++ "," ++ renderItems rest

def renderMembers : List (String × Json) → String
  | [] => ""
  | [(key, value)] => quote key ++ ":" ++ value.render
  | (key, value) :: rest => quote key ++ ":" ++ value.render ++ "," ++ renderMembers rest

end

end StructuredLog.Json
