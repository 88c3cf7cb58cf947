/-!
# Offsets and damaged texts in UTF-8

Offsets into a text count bytes of its UTF-8 form; indices count characters.
-/

namespace StructuredLog.Text

/-! ## Sizes and offsets -/

/-- The number of bytes of a list of characters. -/
def byteSize : List Char → Nat
  | [] => 0
  | c :: rest => c.utf8Size + byteSize rest

/-- The number of characters that begin before the byte offset. -/
def indexOfOffset : List Char → Nat → Nat
  | [], _ => 0
  | c :: rest, offset => if offset = 0 then 0 else 1 + indexOfOffset rest (offset - c.utf8Size)

/-- The byte offset of the character with this index, or the size of the text past its end. -/
def offsetOfIndex (s : List Char) (index : Nat) : Nat :=
  byteSize (s.take index)

theorem byteSize_append (s t : List Char) : byteSize (s ++ t) = byteSize s + byteSize t := by
  induction s with
  | nil => simp [byteSize]
  | cons c s ih => simp [byteSize, ih, Nat.add_assoc]

/-! ## Reading damaged text -/

/-- Is `b` one of the bytes that follow the first one of a character? -/
def isContinuation (b : UInt8) : Bool :=
  0x80 ≤ b && b ≤ 0xbf

/-- The bounds of the second byte and the number of continuation bytes, for a first byte of two
or more. -/
def leadByte? (b : UInt8) : Option (UInt8 × UInt8 × Nat) :=
  if 0xc2 ≤ b && b ≤ 0xdf then some (0x80, 0xbf, 1)
  else if b == 0xe0 then some (0xa0, 0xbf, 2)
  else if b == 0xed then some (0x80, 0x9f, 2)
  else if 0xe1 ≤ b && b ≤ 0xef then some (0x80, 0xbf, 2)
  else if b == 0xf0 then some (0x90, 0xbf, 3)
  else if 0xf1 ≤ b && b ≤ 0xf3 then some (0x80, 0xbf, 3)
  else if b == 0xf4 then some (0x80, 0x8f, 3)
  else none

/-- How many bytes at the front belong together, and whether they make a whole character. -/
def firstSequence : List UInt8 → Nat × Bool
  | [] => (0, true)
  | b :: rest =>
    if b < 0x80 then (1, true)
    else match leadByte? b, rest with
      | some (low, high, count), second :: more =>
        if low ≤ second && second ≤ high then
          let following := ((more.take (count - 1)).takeWhile isContinuation).length
          (2 + following, following + 1 == count)
        else (1, false)
      | _, _ => (1, false)

/-- Reads bytes as text; each longest piece of a character that is cut short reads as the
replacement character. -/
def readLossy (bytes : List UInt8) : String :=
  go bytes.length bytes ""
where
  go : Nat → List UInt8 → String → String
    | 0, _, done => done
    | _, [], done => done
    | fuel + 1, bytes, done =>
      let (size, whole) := firstSequence bytes
      let piece := if whole then (String.fromUTF8? ⟨(bytes.take size).toArray⟩).getD "\ufffd"
        else "\ufffd"
      go fuel (bytes.drop size) (done ++ piece)

end StructuredLog.Text
