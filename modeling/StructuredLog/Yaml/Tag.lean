/-!
# Tags of YAML nodes

A tag tells what a node is. Its escapes may spell any bytes, so a tag need not be text.
-/

namespace StructuredLog.Yaml

/-- A tag as written: a handle, which stands for the beginning of the tag, and the rest of it. -/
structure TagText where
  handle : String
  suffix : List UInt8
  deriving DecidableEq, Repr

/-- A whole tag. -/
structure Tag where
  bytes : List UInt8
  deriving DecidableEq, Repr

namespace Tag

def ofString (s : String) : Tag :=
  ⟨s.toUTF8.toList⟩

/-- One of the tags that the language itself explains. -/
def standard (name : String) : Tag :=
  ofString ("tag:yaml.org,2002:" ++ name)

/-- An exclamation mark begins the tags of the document's own, which no rule of the language
explains. -/
def mark : UInt8 := 0x21

def isLocal (t : Tag) : Bool :=
  t.bytes.head? == some mark

/-- A mark without a name behind it. -/
def nameless : Tag := ⟨[mark]⟩

/-- The bytes without the mark in front, unless nothing else would be left. -/
def unmarked : List UInt8 → List UInt8
  | b :: c :: rest => if b = mark then c :: rest else b :: c :: rest
  | bytes => bytes

/-- The name that a tag of the document's own gives, if it is text. -/
def name? (t : Tag) : Option String :=
  if t.isLocal then String.fromUTF8? ⟨(unmarked t.bytes).toArray⟩ else none

end Tag

end StructuredLog.Yaml
