import StructuredLog.Template.Scan
import StructuredLog.Indexed
import StructuredLog.Text.Quoted
import StructuredLog.Observed
import StructuredLog.Value

/-!
# Templates

A compiled template renders values into its slots, in the order of their occurrence. It can render
into a text, into a writer, or later.
-/

namespace StructuredLog

/-! ## Errors -/

inductive TemplateError
  /-- The character with this index rules out that the text is a template. -/
  | malformed (template : String) (index : Nat)
  | notEnoughValues (expected actual : Nat)
  | format
  deriving DecidableEq, Repr

namespace TemplateError

/-- The error of a template that was read up to a byte offset. -/
def malformedAt (template : String) (offset : Nat) : TemplateError :=
  .malformed template (Text.indexOfOffset template.toList offset)

def index? : TemplateError → Option Nat
  | .malformed _ index => some index
  | _ => none

def template? : TemplateError → Option String
  | .malformed template _ => some template
  | _ => none

/-- The index as a byte offset. -/
def byteIndex? : TemplateError → Option Nat
  | .malformed template index => some (Text.offsetOfIndex template.toList index)
  | _ => none

def message : TemplateError → String
  | .malformed template index =>
    "template is malformed at index " ++ toString index ++ ": " ++ Text.quote template
  | .notEnoughValues expected actual =>
    "not enough values to render template: expected " ++ toString expected ++ ", got " ++
      toString actual
  | .format => "a template value failed to format"

end TemplateError

/-! ## Compiling -/

structure Template where
  /-- The text it was compiled from. -/
  original : String
  segments : List Template.Segment
  names : List String
  deriving DecidableEq, Repr

namespace Template

def compile (text : String) : Except TemplateError Template :=
  match scan text.toList with
  | .ok s => .ok ⟨text, s.segments, s.names⟩
  | .error offset => .error (.malformedAt text offset)

/-- The number of slots. -/
def arity (t : Template) : Nat :=
  t.names.length

/-! ## Rendering -/

/-- There must be a value for every slot; more are ignored. -/
def checkValues (t : Template) (values : Indexed Value) : Except TemplateError Unit :=
  if values.count < t.arity then .error (.notEnoughValues t.arity values.count) else .ok ()

/-- A literal is one piece, and a slot is rendered as its value. -/
def Segment.rendering (values : Indexed Value) : Segment → Rendering
  | .literal _ text => [.write text]
  | .slot index =>
    match values.at? index with
    | some v => v.rendering
    | none => [.fail]

/-- The segments in order, whatever the number of values. -/
def segmentsRendering (t : Template) (values : Indexed Value) : Rendering :=
  t.segments.flatMap (Segment.rendering values)

/-- What the template writes; with too few values it fails at once. -/
def rendering (t : Template) (values : Indexed Value) : Rendering :=
  match t.checkValues values with
  | .ok () => t.segmentsRendering values
  | .error _ => [.fail]

/-- The text of the template with its values. -/
def render (t : Template) (values : Indexed Value) : Except TemplateError String := do
  t.checkValues values
  match (Rendering.toText (t.segmentsRendering values)).result with
  | some text => pure text
  | none => throw .format

end Template

end StructuredLog
