import StructuredLog.Settings.Problem
import StructuredLog.Yaml.Data
import StructuredLog.Yaml.Node.Reader

/-!
# Settings in YAML

A document of settings is a mapping with some of the fields. Levels and formats are read from the
text of their scalars, whatever that would mean elsewhere. What is wrong with settings is told only
where the document holds data.
-/

namespace StructuredLog.Settings

open Yaml

/-! ## Values -/

/-- What a node is called in a message. Tags are known to agree with their scalars. -/
def Found.ofNode : Node → Found
  | .alias _ => .null
  | .sequence _ _ _ => .sequence
  | .mapping _ _ _ => .map
  | .scalar _ tag style text =>
    match Scalar.read? tag style text with
    | some .null => .null
    | some (.bool b) => .bool b
    | some (.int n) => .int n
    | some (.float x) => .float x
    | some (.str s) => .str s
    | none => .str text

/-- A value of a mapping. -/
structure Place where
  /-- The field, if its name is written there; an alias may stand for it. -/
  field? : Option Field
  /-- The value is an alias. -/
  throughAlias : Bool
  node : Node

/-- A problem that is told with its place. -/
def Place.problem (p : Place) : Problem → Problem :=
  .inValue p.field?

def levelOfNode (p : Place) : Except Problem Level :=
  match p.node with
  | .scalar _ _ _ text =>
    match Level.parse? text with
    | some level => .ok level
    | none => .error (.unknownLevel text)
  | n => .error (p.problem (.wrongType (Found.ofNode n) "a string"))

/-- The format with this name. -/
def formatOfName (name : String) : Except Problem Format :=
  match Format.parse? name with
  | some format => .ok format
  | none => .error (.unknownFormat name)

/-- Nothing stands where a plain scalar looks like a null. -/
def checkNothing : Node → Except Problem Unit
  | .scalar _ _ style text =>
    if style = .plain ∧ Scalar.isNull text then .ok () else .error (.notNull text)
  | n => .error (.wrongType (Found.ofNode n) "unit")

/-- A tag may name the format, and then nothing may stand behind it. A wrong name is told with its
place only if it is read through an alias. -/
def formatOfNode (p : Place) : Except Problem Format :=
  match p.node.tag.bind Tag.name?, p.node with
  | some name, n => do
    let format ← (formatOfName name).mapError (if p.throughAlias then p.problem else id)
    (checkNothing n).mapError p.problem
    pure format
  | none, .scalar _ _ _ text => (formatOfName text).mapError p.problem
  | none, n => .error (p.problem (.wrongType (Found.ofNode n) "a YAML tag starting with '!'"))

/-- A boolean is a plain scalar, or a literal one that is tagged as such. -/
def boolOfNode (p : Place) : Except Problem Bool :=
  let value? := match p.node with
    | .scalar _ tag style text =>
      if style = .plain ∨ (style = .literal ∧ tag = some (Tag.standard "bool")) then
        Scalar.bool? text
      else none
    | _ => none
  match value? with
  | some b => .ok b
  | none => .error (p.problem (.wrongType (Found.ofNode p.node) "a boolean"))

/-! ## Mappings -/

/-- Which field a key names; it may be named once. -/
def fieldOfNode (seen : List Field) : Node → Except Problem Field
  | .scalar _ _ _ text =>
    match Field.parse? text with
    | some field => if field ∈ seen then .error (.duplicateField text) else .ok field
    | none => .error (.unknownField text)
  | n => .error (.wrongType (Found.ofNode n) "field identifier")

/-- Sets one field. -/
def setFromPlace (s : Settings) (field : Field) (p : Place) : Except Problem Settings :=
  match field with
  | .minLevel => (levelOfNode p).map fun minLevel => { s with minLevel }
  | .format => (formatOfNode p).map fun format => { s with format }
  | .eventIds => (boolOfNode p).map fun eventIds => { s with eventIds }
  | .messages => (boolOfNode p).map fun messages => { s with messages }

/-- Sets the fields of a mapping in order. -/
def setFromEntries (anchored : List (Nat × Node)) (s : Settings) (seen : List Field) :
    List (Node × Node) → Except Problem Settings
  | [] => .ok s
  | (key, value) :: rest => do
    let field ← fieldOfNode seen (key.resolve anchored)
    let s ← s.setFromPlace field
      ⟨if key.isAlias then none else some field, value.isAlias, value.resolve anchored⟩
    setFromEntries anchored s (field :: seen) rest

/-- The settings of a document, given by its root. -/
def ofNode : Node → Except Problem Settings
  | .mapping anchor tag entries =>
    setFromEntries (Node.anchored (.mapping anchor tag entries)) standard [] entries
  | .scalar _ _ .plain "" => .ok standard
  | n => .error (.wrongType (Found.ofNode n) "struct SinkConfig")

/-- The settings of a text. A text without a document gives the standard ones, and so does one of
blanks alone. -/
def ofYaml (text : String) : Except Problem Settings :=
  let cs := text.toList
  if cs.all Text.isBlank then .ok standard
  else match Node.read? cs with
    | none => .error .unreadable
    | some none => .ok standard
    | some (some n) =>
      (ofNode n).mapError fun problem =>
        if (Data.ofDocument? n).isSome then problem else .unreadable

end StructuredLog.Settings
