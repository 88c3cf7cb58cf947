import StructuredLog.Sink
import StructuredLog.Sink.Device
import StructuredLog.Sink.OpenScopes

/-!
# A sink of text lines

Each entry is one line: its label, its event, its message, its error and the open scopes. A line is
offered to the device once it is complete; an entry that cannot be displayed is left out.
-/

namespace StructuredLog

structure TextLines where
  minLevel : Level := .info
  eventIds : Bool := true
  scopes : OpenScopes String := {}
  device : Device

namespace TextLines

/-- The text of a scope. A value that fails leaves what it wrote before. -/
def scopeText (v : View) : String :=
  String.intercalate ", " (v.pairs.map fun pair => pair.name ++ ": " ++ pair.value.text)

/-- The line of an entry. -/
def line (e : Entry) (s : TextLines) : Observed String := do
  let message ← e.text
  let error ← e.errorText
  return String.join [
    e.level.label,
    if s.eventIds then " [" ++ e.event.text ++ "]" else "",
    " ",
    message,
    (error.map (": " ++ ·)).getD "",
    String.join (s.scopes.contents.map (" => " ++ ·)),
    "\n"]

def isEnabled (level : Level) (s : TextLines) : Bool :=
  s.minLevel ≤ level

def log (e : Entry) (s : TextLines) : Observed Unit × TextLines :=
  if s.isEnabled e.level then
    let line := s.line e
    match line.result with
    | none => (⟨line.started, some ()⟩, s)
    | some text =>
      let (written, device) := s.device.writeAll text.toUTF8.toList
      (⟨line.started, if written = .gaveUp then none else some ()⟩, { s with device })
  else (pure (), s)

def beginScope (v : View) (s : TextLines) : Observed Guard × TextLines :=
  let started := v.pairs.flatMap fun pair => Rendering.started pair.value.rendering
  let (id, scopes) := s.scopes.push (scopeText v)
  (⟨started, some (.closes id)⟩, { s with scopes })

instance : Sink TextLines where
  isEnabled level s := (s.isEnabled level, s)
  log := log
  beginScope := beginScope
  endScope id s := { s with scopes := s.scopes.remove id }

end TextLines

end StructuredLog
