import StructuredLog.Text.Hex
import StructuredLog.Text.Visible

/-! # Quoted texts and characters -/

namespace StructuredLog.Text

/-- One character inside quotation marks `mark`. A backslash announces the marks, itself and the
four controls with a letter; what cannot be seen is given by its code point. -/
def escapeChar (mark : Char) (c : Char) : String :=
  if c = '\x00' then "\\0"
  else if c = '\t' then "\\t"
  else if c = '\r' then "\\r"
  else if c = '\n' then "\\n"
  else if c = mark || c = '\\' then String.ofList ['\\', c]
  else if isVisible c then String.singleton c
  else "\\u\x7b" ++ hex c.toNat ++ "\x7d"

/-- A text between double quotes. -/
def quote (s : String) : String :=
  "\"" ++ String.join (s.toList.map (escapeChar '"')) ++ "\""

/-- A character between single quotes. -/
def quoteChar (c : Char) : String :=
  "'" ++ escapeChar '\'' c ++ "'"

end StructuredLog.Text
