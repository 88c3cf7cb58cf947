import StructuredLog.Template
import StructuredLog.Text.Slice

/-!
# Templates in bytes

The same templates are compiled from the bytes of their texts, one byte at a time and without
copying literals: a segment keeps the offsets between which its literal stands, and the text is
sliced there when the literal is written. A name is copied in runs that end at the doubled braces
inside it. Compiling breaks off if a run is no slice of the text.
-/

namespace StructuredLog.Template

open Text

/-! ## Braces -/

def Brace.byte : Brace → UInt8
  | .opening => 0x7b
  | .closing => 0x7d

def Brace.ofByte? (byte : UInt8) : Option Brace :=
  if byte = Brace.opening.byte then some .opening
  else if byte = Brace.closing.byte then some .closing
  else none

/-! ## The scanner -/

/-- A literal stands in the text from `start` up to `stop`. -/
inductive ByteSegment
  | literal (start stop : Nat)
  | slot (index : Nat)
  deriving DecidableEq, Repr

/-- A name that is being read. What stands in the text from `runStart` on is not copied yet. -/
structure OpenName where
  name : String
  runStart : Nat
  deriving DecidableEq, Repr

structure ByteScan where
  /-- The bytes read so far. -/
  offset : Nat := 0
  /-- Where the literal began that is being read; of no use while a name is open. -/
  literalStart : Nat := 0
  openName : Option OpenName := none
  segments : List ByteSegment := []
  names : List String := []
  deriving DecidableEq, Repr

/-- A literal without bytes is no segment. -/
def byteLiteral (start stop : Nat) : List ByteSegment :=
  if start < stop then [.literal start stop] else []

namespace ByteScan

/-- Fails with the error that the text is malformed at the offset. -/
def malformed {α : Type} (text : String) (offset : Nat) : Except (Abort TemplateError) α := do
  let before ← slice text 0 offset
  throw (.error (.malformed text before.length))

/-! ### Steps -/

/-- Passes over a byte that belongs to no brace. -/
def pass (s : ByteScan) : ByteScan :=
  { s with offset := s.offset + 1 }

/-- Reads two equal braces. -/
def double (text : String) (s : ByteScan) (b : Brace) : Except (Abort TemplateError) ByteScan :=
  match s.openName with
  | some pending => do
    let run ← slice text pending.runStart s.offset
    pure { s with
      offset := s.offset + 2
      openName := some ⟨(pending.name ++ run).push b.char, s.offset + 2⟩ }
  | none => pure { s with
      offset := s.offset + 2
      literalStart := s.offset + 2
      segments := s.segments ++ byteLiteral s.literalStart (s.offset + 1) }

/-- Reads a single brace. -/
def single (text : String) (s : ByteScan) : Brace → Except (Abort TemplateError) ByteScan
  | .opening =>
    match s.openName with
    | some _ => malformed text s.offset
    | none => pure { s with
        offset := s.offset + 1
        openName := some ⟨"", s.offset + 1⟩
        segments := s.segments ++ byteLiteral s.literalStart s.offset }
  | .closing =>
    match s.openName with
    | none => malformed text s.offset
    | some pending => do
      let run ← slice text pending.runStart s.offset
      let name := pending.name ++ run
      if name.isEmpty then malformed text s.offset
      else pure {
        offset := s.offset + 1
        literalStart := s.offset + 1
        openName := none
        segments := s.segments ++ [.slot s.names.length]
        names := s.names ++ [name] }

/-- Ends the text. -/
def finish (text : String) (s : ByteScan) : Except (Abort TemplateError) ByteScan :=
  match s.openName with
  | some _ => malformed text text.utf8ByteSize
  | none => pure { s with
      segments := s.segments ++ byteLiteral s.literalStart text.utf8ByteSize }

/-! ### Whole texts -/

/-- Reads bytes of the text. A brace is read together with the next byte if that is the same. -/
def run (text : String) (s : ByteScan) : List UInt8 → Except (Abort TemplateError) ByteScan
  | [] => pure s
  | byte :: bytes =>
    match Brace.ofByte? byte with
    | none => run text s.pass bytes
    | some b =>
      match bytes with
      | [] => s.single text b
      | next :: behind =>
        if next = byte then s.double text b >>= fun s' => run text s' behind
        else s.single text b >>= fun s' => run text s' (next :: behind)

end ByteScan

def byteScan (text : String) : Except (Abort TemplateError) ByteScan :=
  ByteScan.run text {} text.toUTF8.toList >>= ByteScan.finish text

end StructuredLog.Template

namespace StructuredLog

/-- A template that has its literals in its text. -/
structure ByteTemplate where
  original : String
  segments : List Template.ByteSegment
  names : List String
  deriving DecidableEq, Repr

def ByteTemplate.compile (text : String) : Except (Text.Abort TemplateError) ByteTemplate := do
  let s ← Template.byteScan text
  pure ⟨text, s.segments, s.names⟩

end StructuredLog
