import StructuredLog.Template.Atom
import StructuredLog.Text.Utf8

/-!
# Scanning templates

A template is literal text with slots. A slot is a name between single braces; doubled braces stand
for one brace, in literal text and in names alike. The scanner takes one atom at a time and stops
at the first that no text could follow to make a template: an opening brace inside a name, a closing
brace outside of one or after an empty name, or the end of the text inside a name.
-/

namespace StructuredLog.Template

/-- A literal is a stretch of the template as it stands there, `start` bytes from its beginning;
a slot stands for the value with this index. -/
inductive Segment
  | literal (start : Nat) (text : String)
  | slot (index : Nat)
  deriving DecidableEq, Repr

/-- Inside literal text or inside a name, with what has been read of it. -/
inductive Mode
  | literal (start : Nat) (text : String)
  | name (text : String)
  deriving DecidableEq, Repr

structure Scan where
  /-- The bytes read so far. -/
  offset : Nat := 0
  segments : List Segment := []
  names : List String := []
  mode : Mode := .literal 0 ""
  deriving DecidableEq, Repr

/-! ## One atom -/

/-- A literal without characters is no segment. -/
def literal (start : Nat) (text : String) : List Segment :=
  if text.isEmpty then [] else [.literal start text]

namespace Scan

/-- Reads one atom, or fails at the offset where it begins. In literal text a doubled brace gives
its first brace to the literal, which ends there; in a name it gives the brace to the name. -/
def step (s : Scan) (a : Atom) : Except Nat Scan :=
  let offset := s.offset + Text.byteSize a.source
  match s.mode, a with
  | .literal start text, .plain c => .ok { s with offset, mode := .literal start (text.push c) }
  | .literal start text, .double b =>
    .ok { s with
      offset
      segments := s.segments ++ literal start (text.push b.char)
      mode := .literal offset "" }
  | .literal start text, .single .opening =>
    .ok { s with offset, segments := s.segments ++ literal start text, mode := .name "" }
  | .literal _ _, .single .closing => .error s.offset
  | .name text, .plain c => .ok { s with offset, mode := .name (text.push c) }
  | .name text, .double b => .ok { s with offset, mode := .name (text.push b.char) }
  | .name _, .single .opening => .error s.offset
  | .name text, .single .closing =>
    if text.isEmpty then .error s.offset
    else .ok {
      offset
      segments := s.segments ++ [.slot s.names.length]
      names := s.names ++ [text]
      mode := .literal offset "" }

/-- Ends the text, or fails at its end when a name is still open. -/
def finish (s : Scan) : Except Nat Scan :=
  match s.mode with
  | .literal start text => .ok { s with segments := s.segments ++ literal start text }
  | .name _ => .error s.offset

/-! ## Whole texts -/

/-- Reads all atoms. -/
def run (s : Scan) (atoms : List Atom) : Except Nat Scan :=
  atoms.foldlM step s

theorem run_append (s : Scan) (xs ys : List Atom) :
    s.run (xs ++ ys) = s.run xs >>= fun s' => s'.run ys := by
  simp [run]

end Scan

/-- Reads a whole template, or fails with the byte offset at which it is malformed. -/
def scan (text : List Char) : Except Nat Scan :=
  Scan.run {} (Atom.read text) >>= Scan.finish

end StructuredLog.Template
