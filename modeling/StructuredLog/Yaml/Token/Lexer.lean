import StructuredLog.Text.Hex
import StructuredLog.Text.Utf8
import StructuredLog.Yaml.Token

/-!
# Reading the tokens of a YAML text

The reader keeps the columns of the open block collections. A scalar turns out to be a mapping key
only at the colon behind it, so the place where a key token would go is remembered until then.
-/

namespace StructuredLog.Yaml

/-- A place where a key may have begun. -/
structure KeyPlace where
  /-- The number of tokens before it. -/
  token : Nat
  offset : Nat
  line : Nat
  column : Nat
  /-- At this column of a block mapping only a key can stand. -/
  required : Bool

structure Lexer where
  rest : List Char
  /-- The bytes read so far. -/
  offset : Nat := 0
  line : Nat := 0
  column : Nat := 0
  tokens : List Token := []
  /-- The column of the innermost open block collection. -/
  indent : Int := -1
  /-- The columns around it. -/
  outer : List Int := []
  keyAllowed : Bool := true
  /-- The possible key of the block context, then of each open flow collection, innermost first. -/
  keys : List (Option KeyPlace) := [none]

/-- A step of the reader; it fails where no token can stand. -/
abbrev Lex := StateT Lexer Option

namespace Lexer

def inFlow (s : Lexer) : Bool :=
  1 < s.keys.length

def peek (s : Lexer) : Option Char :=
  s.rest.head?

/-- The character that stands some characters ahead. -/
def peekAt (s : Lexer) (ahead : Nat) : Option Char :=
  s.rest[ahead]?

/-- Moves over characters that are not breaks. -/
def advance (n : Nat) (s : Lexer) : Lexer :=
  { s with
    rest := s.rest.drop n
    offset := s.offset + Text.byteSize (s.rest.take n)
    column := s.column + n }

/-- Moves over one break. -/
def newline (s : Lexer) : Lexer :=
  let size := match s.rest with
    | '\r' :: '\n' :: _ => 2
    | _ => 1
  { s with
    rest := s.rest.drop size
    offset := s.offset + Text.byteSize (s.rest.take size)
    column := 0
    line := s.line + 1 }

/-- What one break reads as. -/
def breakText (s : Lexer) : List Char :=
  match s.peek with
  | some '\u2028' => ['\u2028']
  | some '\u2029' => ['\u2029']
  | _ => ['\n']

/-- Does a marker of three equal characters begin a line here? -/
def atMarker (c : Char) (s : Lexer) : Bool :=
  s.column == 0 && s.rest.take 3 == [c, c, c] && isGap (s.peekAt 3)

def atDocumentMarker (s : Lexer) : Bool :=
  s.atMarker '-' || s.atMarker '.'

def emit (t : Token) (s : Lexer) : Lexer :=
  { s with tokens := s.tokens ++ [t] }

/-- Moves over the characters with a property. -/
def takeRun (p : Char → Bool) : Lex (List Char) := fun s =>
  let taken := s.rest.takeWhile p
  some (taken, s.advance taken.length)

def skip (n : Nat) : Lex Unit :=
  modify (·.advance n)

def require (b : Bool) : Lex Unit :=
  if b then pure () else failure

/-! ## Possible keys -/

/-- Drops the innermost possible key; a required one may not be dropped. -/
def dropKey : Lex Unit := do
  let s ← get
  match s.keys with
  | some place :: outer =>
    require !place.required
    set { s with keys := none :: outer }
  | _ => pure ()

/-- Remembers that a key may begin here. -/
def saveKey : Lex Unit := do
  let s ← get
  if s.keyAllowed then
    dropKey
    let place : KeyPlace := {
      token := s.tokens.length
      offset := s.offset
      line := s.line
      column := s.column
      required := !s.inFlow && s.indent == s.column }
    modify fun s => { s with keys := some place :: s.keys.tail }

/-- A key ends on its line and within 1024 bytes. -/
def dropStaleKeys : Lex Unit := do
  let s ← get
  let isStale (place : KeyPlace) := place.line < s.line || place.offset + 1024 < s.offset
  require (s.keys.all fun key => key.all fun place => !(isStale place && place.required))
  set { s with keys := s.keys.map (Option.filter fun place => !isStale place) }

/-! ## Indentation -/

/-- Opens a block collection at a column, with its token at place `position`. -/
def openBlock (column : Nat) (position : Nat) (t : Token) (s : Lexer) : Lexer :=
  if !s.inFlow && s.indent < column then
    { s with
      outer := s.indent :: s.outer
      indent := column
      tokens := s.tokens.insertIdx position t }
  else s

/-- Ends the block collections that lie to the right of a column. -/
def closeBlocks (column : Int) (s : Lexer) : Lexer :=
  if s.inFlow then s
  else go s.outer s.indent s.tokens
where
  go : List Int → Int → List Token → Lexer
    | outer, indent, tokens =>
      if column < indent then
        match outer with
        | around :: outer => go outer around (tokens ++ [.blockEnd])
        | [] => { s with outer := [], indent, tokens }
      else { s with outer, indent, tokens }

/-! ## Blanks and comments -/

/-- Moves to the next token. Tabs are blanks only where no key may begin, and a byte order mark is
passed over at the beginning of a line. -/
def toToken : Nat → Lex Unit
  | 0 => failure
  | fuel + 1 => do
    let s ← get
    if s.column == 0 && s.peek == some '\ufeff' then skip 1
    let tabs := s.inFlow || !s.keyAllowed
    let _ ← takeRun fun c => c == ' ' || (tabs && c == '\t')
    if (← get).peek == some '#' then
      let _ ← takeRun fun c => !isBreak c
    match (← get).peek with
    | some c =>
      if isBreak c then
        modify newline
        if !(← get).inFlow then modify fun s => { s with keyAllowed := true }
        toToken fuel
      else pure ()
    | none => pure ()

/-- Moves over blanks and a comment to the end of the line. -/
def toLineEnd : Lex Unit := do
  let _ ← takeRun isSpaceOrTab
  if (← get).peek == some '#' then
    let _ ← takeRun fun c => !isBreak c
  require (isLineEnd (← get).peek)
  if (← get).peek.isSome then modify newline

/-! ## Anchors, tags and directives -/

def word : Lex String := do
  let name ← takeRun isWord
  require !name.isEmpty
  return String.ofList name

/-- The name of an anchor or alias behind its mark. -/
def anchorName : Lex String := do
  skip 1
  let name ← word
  let next := (← get).peek
  require (isGap next || next.any ("?:,]\x7d%@\x60".toList.contains ·))
  return name

/-- The characters of a tag. -/
def isTagChar (whole : Bool) (c : Char) : Bool :=
  isWord c || ";/?:@&=+$.!~*'()".toList.contains c || (whole && ",[]".toList.contains c)

/-- An octet behind a percent sign, as two hexadecimal digits. -/
def octet : Lex UInt8 := do
  match (← get).rest with
  | '%' :: high :: low :: _ =>
    match Text.hexDigit? high, Text.hexDigit? low with
    | some high, some low =>
      skip 3
      return UInt8.ofNat (16 * high + low)
    | _, _ => failure
  | _ => failure

/-- How many octets follow one that may begin a character. -/
def followers? (b : UInt8) : Option Nat :=
  if b < 0x80 then some 0
  else if b < 0xc0 then none
  else if b < 0xe0 then some 1
  else if b < 0xf0 then some 2
  else if b < 0xf8 then some 3
  else none

/-- The octets of one escaped character. Only their number is checked. -/
def octets : Lex (List UInt8) := do
  let first ← octet
  let some count := followers? first | failure
  let others ← (List.range count).mapM fun _ => do
    let b ← octet
    require (Text.isContinuation b)
    return b
  return first :: others

/-- The bytes of a tag. -/
def tagBytes (whole : Bool) : Nat → Lex (List UInt8)
  | 0 => failure
  | fuel + 1 => do
    let run ← takeRun (isTagChar whole)
    let run := (String.ofList run).toUTF8.toList
    if (← get).peek == some '%' then
      let escaped ← octets
      return run ++ escaped ++ (← tagBytes whole fuel)
    else return run

/-- A tag ends before its first zero, which only an escape can spell. -/
def beforeZero (bytes : List UInt8) : List UInt8 :=
  bytes.takeWhile (· ≠ 0)

/-- A mark, a word and perhaps a closing mark. -/
def tagHandle : Lex (List Char) := do
  require ((← get).peek == some '!')
  skip 1
  let name ← takeRun isWord
  if (← get).peek == some '!' then
    skip 1
    return '!' :: name ++ ['!']
  else return '!' :: name

/-- A tag: between angle brackets, with a handle, or behind a single mark. -/
def tag : Lex TagText := do
  let s ← get
  let fuel := s.rest.length + 1
  let result ← do
    if s.peekAt 1 == some '<' then
      skip 2
      let bytes ← tagBytes true fuel
      require (!bytes.isEmpty && (← get).peek == some '>')
      skip 1
      pure (⟨"", beforeZero bytes⟩ : TagText)
    else
      let handle ← tagHandle
      if 1 < handle.length && handle.getLast? == some '!' then
        let bytes ← tagBytes false fuel
        require !bytes.isEmpty
        pure ⟨String.ofList handle, beforeZero bytes⟩
      else
        let word := (String.ofList (handle.drop 1)).toUTF8.toList
        let bytes := beforeZero (word ++ (← tagBytes false fuel))
        pure (if bytes.isEmpty then ⟨"", Tag.nameless.bytes⟩ else ⟨"!", bytes⟩)
  let next := (← get).peek
  require (isGap next || ((← get).inFlow && next == some ','))
  return result

def versionNumber : Lex Nat := do
  let digits ← takeRun Char.isDigit
  require (!digits.isEmpty && digits.length ≤ 9)
  return digits.foldl (fun n c => 10 * n + (c.toNat - '0'.toNat)) 0

def directive : Lex Token := do
  skip 1
  let name ← word
  require (isGap (← get).peek)
  let _ ← takeRun isSpaceOrTab
  let result ← do
    if name == "YAML" then
      let major ← versionNumber
      require ((← get).peek == some '.')
      skip 1
      let minor ← versionNumber
      pure (Token.versionDirective major minor)
    else if name == "TAG" then
      let handle ← tagHandle
      require (handle == ['!'] || handle.getLast? == some '!')
      require ((← get).peek.any isSpaceOrTab)
      let _ ← takeRun isSpaceOrTab
      let start ← tagBytes true ((← get).rest.length + 1)
      require (!start.isEmpty && isGap (← get).peek)
      pure (Token.tagDirective (String.ofList handle) (beforeZero start))
    else failure
  toLineEnd
  return result

/-! ## Scalars on indented lines -/

/-- Moves over empty lines to the indentation of a block scalar, which the first line that is not
empty decides if it is still unknown. -/
def blockBreaks : Nat → Option Nat → Nat → List Char → Lex (Nat × List Char)
  | 0, _, _, _ => failure
  | fuel + 1, indent, deepest, breaks => do
    let s ← get
    let spaces := (s.rest.takeWhile (· == ' ')).length
    let spaces := match indent with
      | some n => min spaces (n - s.column)
      | none => spaces
    skip spaces
    let s ← get
    let deepest := max deepest s.column
    require !(indent.all (s.column < ·) && s.peek == some '\t')
    if s.peek.any isBreak then
      modify newline
      blockBreaks fuel indent deepest (breaks ++ s.breakText)
    else
      return (indent.getD (max (max deepest (s.indent + 1).toNat) 1), breaks)

/-- The lines of a block scalar. A folded one turns a single break between lines that do not begin
with a blank into a space. -/
def blockLines (folded : Bool) (indent : Nat) :
    Nat → List Char → List Char → List Char → Bool → Lex (List Char × List Char × List Char)
  | 0, _, _, _, _ => failure
  | fuel + 1, text, leading, trailing, afterBlank => do
    let s ← get
    if s.column == indent && s.peek.isSome then
      let onBlank := s.peek.any isSpaceOrTab
      let joined :=
        if folded && leading.head? == some '\n' && !afterBlank && !onBlank then
          if trailing.isEmpty then [' '] else []
        else leading
      let line ← takeRun fun c => !isBreak c
      let text := text ++ joined ++ trailing ++ line
      let s ← get
      if s.peek.isSome then
        modify newline
        let (_, trailing) ← blockBreaks (s.rest.length + 1) (some indent) 0 []
        blockLines folded indent fuel text s.breakText trailing onBlank
      else return (text, [], [])
    else return (text, leading, trailing)

/-- The chomping and the indentation of a block scalar, in either order. -/
def blockHeader : Lex (Option Char × Option Nat) := do
  let chomping : Lex (Option Char) := do
    match (← get).peek with
    | some c => if c == '+' || c == '-' then skip 1; return some c else return none
    | none => return none
  let increment : Lex (Option Nat) := do
    match (← get).peek with
    | some c =>
      if c.isDigit then
        require (c != '0')
        skip 1
        return some (c.toNat - '0'.toNat)
      else return none
    | none => return none
  match ← chomping with
  | some c => return (some c, ← increment)
  | none =>
    let n ← increment
    return (← (if n.isSome then chomping else pure none), n)

def blockScalar (folded : Bool) : Lex Token := do
  skip 1
  let (chomping, increment) ← blockHeader
  toLineEnd
  let s ← get
  let fuel := s.rest.length + 2
  let indent := increment.map fun n => s.indent.toNat + n
  let (indent, trailing) ← blockBreaks fuel indent 0 []
  let (text, leading, trailing) ← blockLines folded indent fuel [] [] trailing false
  let ending := match chomping with
    | some '-' => []
    | some _ => leading ++ trailing
    | none => leading
  return .scalar (if folded then .folded else .literal) (String.ofList (text ++ ending))

/-! ## Scalars that flow over lines -/

/-- White space inside a scalar: the blanks before a break do not count, a single break is a space,
and of several the first is dropped. -/
structure Spacing where
  blanks : List Char := []
  leading : List Char := []
  trailing : List Char := []
  broken : Bool := false

def Spacing.text (w : Spacing) : List Char :=
  if w.broken then
    if w.leading.head? == some '\n' then
      if w.trailing.isEmpty then [' '] else w.trailing
    else w.leading ++ w.trailing
  else w.blanks

/-- Moves over white space. `tabs` tells whether a tab may stand at a column of a later line. -/
def spacing (tabs : Nat → Bool) : Nat → Spacing → Lex Spacing
  | 0, _ => failure
  | fuel + 1, w => do
    let s ← get
    match s.peek with
    | some c =>
      if isSpaceOrTab c then
        require !(w.broken && c == '\t' && !tabs s.column)
        skip 1
        spacing tabs fuel (if w.broken then w else { w with blanks := w.blanks ++ [c] })
      else if isBreak c then
        modify newline
        spacing tabs fuel (
          if w.broken then { w with trailing := w.trailing ++ s.breakText }
          else { w with blanks := [], leading := s.breakText, broken := true })
      else return w
    | none => return w

/-- The character of an escape, and how many hexadecimal digits give it. -/
def escape? : Char → Option (Char ⊕ Nat)
  | '0' => some (.inl '\x00')
  | 'a' => some (.inl '\x07')
  | 'b' => some (.inl '\x08')
  | 't' => some (.inl '\t')
  | '\t' => some (.inl '\t')
  | 'n' => some (.inl '\n')
  | 'v' => some (.inl '\x0b')
  | 'f' => some (.inl '\x0c')
  | 'r' => some (.inl '\r')
  | 'e' => some (.inl '\x1b')
  | ' ' => some (.inl ' ')
  | '"' => some (.inl '"')
  | '/' => some (.inl '/')
  | '\\' => some (.inl '\\')
  | 'N' => some (.inl '\x85')
  | '_' => some (.inl '\xa0')
  | 'L' => some (.inl '\u2028')
  | 'P' => some (.inl '\u2029')
  | 'x' => some (.inr 2)
  | 'u' => some (.inr 4)
  | 'U' => some (.inr 8)
  | _ => none

/-- An escape behind its backslash. -/
def escaped : Lex Char := do
  skip 1
  let some c := (← get).peek | failure
  skip 1
  match escape? c with
  | none => failure
  | some (.inl c) => return c
  | some (.inr count) =>
    let digits := (← get).rest.take count
    let values := digits.filterMap Text.hexDigit?
    require (values.length == count)
    skip count
    let n := values.foldl (fun n d => 16 * n + d) 0
    if n.isValidChar then return Char.ofNat n else failure

/-- What a quoted scalar holds up to white space or its end, and whether a backslash ended the
line. -/
def quotedRun (double : Bool) : Nat → List Char → Lex (List Char × Bool)
  | 0, _ => failure
  | fuel + 1, text => do
    let s ← get
    match s.peek with
    | none => return (text, false)
    | some c =>
      if isSpaceOrTab c || isBreak c then return (text, false)
      else if double then
        if c == '"' then return (text, false)
        else if c == '\\' then
          if (s.peekAt 1).any isBreak then
            skip 1
            modify newline
            return (text, true)
          else quotedRun double fuel (text ++ [← escaped])
        else
          skip 1
          quotedRun double fuel (text ++ [c])
      else if c == '\'' then
        if s.peekAt 1 == some '\'' then
          skip 2
          quotedRun double fuel (text ++ [c])
        else return (text, false)
      else
        skip 1
        quotedRun double fuel (text ++ [c])

/-- A quoted scalar behind its opening mark. -/
def quotedText (double : Bool) : Nat → List Char → Lex (List Char)
  | 0, _ => failure
  | fuel + 1, text => do
    let s ← get
    require (!s.atDocumentMarker && s.peek.isSome)
    let (run, continued) ← quotedRun double fuel []
    let s ← get
    if s.peek == some (if double then '"' else '\'') then
      skip 1
      return text ++ run
    else
      let w ← spacing (fun _ => true) fuel { broken := continued }
      quotedText double fuel (text ++ run ++ w.text)

def quotedScalar (double : Bool) : Lex Token := do
  skip 1
  let text ← quotedText double ((← get).rest.length + 2) []
  return .scalar .quoted (String.ofList text)

/-- Does a plain scalar end before this character? -/
def endsPlain (s : Lexer) (c : Char) : Bool :=
  (c == ':' && isGap (s.peekAt 1)) || (s.inFlow && ",[]\x7b\x7d".toList.contains c)

/-- A stretch of a plain scalar without white space. -/
def plainRun : Nat → List Char → Lex (List Char)
  | 0, _ => failure
  | fuel + 1, text => do
    let s ← get
    match s.peek with
    | none => return text
    | some c =>
      if isSpaceOrTab c || isBreak c then return text
      else
        require !(s.inFlow && c == ':' && (s.peekAt 1).any (",?[]\x7b\x7d".toList.contains ·))
        if s.endsPlain c then return text
        else
          skip 1
          plainRun fuel (text ++ [c])

/-- A plain scalar with the white space inside it, and whether it ended on a later line. -/
def plainText (indent : Int) : Nat → List Char → Spacing → Lex (List Char × Bool)
  | 0, _, _ => failure
  | fuel + 1, text, before => do
    let s ← get
    if s.atDocumentMarker || s.peek == some '#' then return (text, before.broken)
    else
      let run ← plainRun fuel []
      let text := if run.isEmpty then text else text ++ before.text ++ run
      let before := if run.isEmpty then before else {}
      let s ← get
      if s.peek.any fun c => isSpaceOrTab c || isBreak c then
        let w ← spacing (fun column => indent ≤ column) fuel before
        if !(← get).inFlow && (← get).column < indent then return (text, w.broken)
        else plainText indent fuel text w
      else return (text, before.broken)

def plainScalar : Lex Token := do
  let s ← get
  let (text, onLaterLine) ← plainText (s.indent + 1) (s.rest.length + 2) [] {}
  if onLaterLine then modify fun s => { s with keyAllowed := true }
  return .scalar .plain (String.ofList text)

/-! ## Single tokens -/

/-- Reads a node's mark or scalar, before which a key may have begun. -/
def nodeToken (read : Lex Token) : Lex Unit := do
  saveKey
  modify fun s => { s with keyAllowed := false }
  let t ← read
  modify (emit t)

/-- A directive or a document marker ends all blocks. -/
def documentToken (read : Lex Token) : Lex Unit := do
  modify (closeBlocks (-1))
  dropKey
  modify fun s => { s with keyAllowed := false }
  let t ← read
  modify (emit t)

def flowStart (t : Token) : Lex Unit := do
  saveKey
  modify fun s => emit t { s with keys := none :: s.keys, keyAllowed := true }
  skip 1

def flowEnd (t : Token) : Lex Unit := do
  dropKey
  modify fun s => emit t { s with
    keys := if s.inFlow then s.keys.tail else s.keys
    keyAllowed := false }
  skip 1

def flowEntry : Lex Unit := do
  dropKey
  modify fun s => emit .flowEntry { s with keyAllowed := true }
  skip 1

/-- Opens a block collection at the current column, which must be free for one. -/
def openHere (t : Token) : Lex Unit := do
  let s ← get
  if !s.inFlow then
    require s.keyAllowed
    set (s.openBlock s.column s.tokens.length t)

def blockEntry : Lex Unit := do
  openHere .blockSequenceStart
  dropKey
  modify fun s => emit .blockEntry { s with keyAllowed := true }
  skip 1

def explicitKey : Lex Unit := do
  openHere .blockMappingStart
  dropKey
  modify fun s => emit .key { s with keyAllowed := !s.inFlow }
  skip 1

/-- A colon makes a key of what may be one, and stands alone otherwise. -/
def mappingValue : Lex Unit := do
  let s ← get
  match s.keys with
  | some place :: outer =>
    let s := { s with
      tokens := s.tokens.insertIdx place.token .key
      keys := none :: outer
      keyAllowed := false }
    set (s.openBlock place.column place.token .blockMappingStart)
  | _ =>
    openHere .blockMappingStart
    modify fun s => { s with keyAllowed := !s.inFlow }
  modify (emit .value)
  skip 1

/-- May a plain scalar begin here? -/
def startsPlain (s : Lexer) (c : Char) : Bool :=
  let indicators := "-?:,[]\x7b\x7d#&*!|>'\"%@\x60".toList
  (!isSpaceOrTab c && !indicators.contains c) || (c == '-' && !(s.peekAt 1).any isSpaceOrTab) ||
    (!s.inFlow && (c == '?' || c == ':') && !isGap (s.peekAt 1))

/-- Reads the token that begins with `c`. -/
def token (c : Char) : Lex Unit := do
  let s ← get
  let next := s.peekAt 1
  if s.column == 0 && c == '%' then documentToken directive
  else if s.atMarker '-' then documentToken (do skip 3; return .documentStart)
  else if s.atMarker '.' then documentToken (do skip 3; return .documentEnd)
  else if c == '[' then flowStart .flowSequenceStart
  else if c == '\x7b' then flowStart .flowMappingStart
  else if c == ']' then flowEnd .flowSequenceEnd
  else if c == '\x7d' then flowEnd .flowMappingEnd
  else if c == ',' then flowEntry
  else if c == '-' && isGap next then blockEntry
  else if c == '?' && (s.inFlow || isGap next) then explicitKey
  else if c == ':' && (s.inFlow || isGap next) then mappingValue
  else if c == '*' then nodeToken (return .alias (← anchorName))
  else if c == '&' then nodeToken (return .anchor (← anchorName))
  else if c == '!' then nodeToken (return .tag (← tag))
  else if (c == '|' || c == '>') && !s.inFlow then
    dropKey
    modify fun s => { s with keyAllowed := true }
    let t ← blockScalar (c == '>')
    modify (emit t)
  else if c == '\'' then nodeToken (quotedScalar false)
  else if c == '"' then nodeToken (quotedScalar true)
  else if s.startsPlain c then nodeToken plainScalar
  else failure

/-- Reads tokens to the end of the text. -/
def toEnd : Nat → Lex (List Token)
  | 0 => failure
  | fuel + 1 => do
    toToken ((← get).rest.length + 1)
    dropStaleKeys
    modify fun s => s.closeBlocks s.column
    match (← get).peek with
    | some c =>
      token c
      toEnd fuel
    | none =>
      modify (closeBlocks (-1))
      dropKey
      return (← get).tokens

end Lexer

/-- The tokens of a text, unless something in it can be none. -/
def Token.read? (text : List Char) : Option (List Token) :=
  if text.all isAllowed then
    ((Lexer.toEnd (text.length + 1)).run { rest := text }).map Prod.fst
  else none

end StructuredLog.Yaml
