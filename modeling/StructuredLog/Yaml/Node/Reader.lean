import StructuredLog.Yaml.Node
import StructuredLog.Yaml.Token.Lexer

/-!
# Reading the nodes of a YAML text

A text holds one document or none.
-/

namespace StructuredLog.Yaml

structure Reader where
  tokens : List Token
  /-- The names of anchors with their numbers, each name once. -/
  anchors : List (String × Nat) := []
  /-- What the handles of tags stand for. -/
  handles : List (String × List UInt8) := []

/-- A step of the reader; it fails at a token that cannot stand there. -/
abbrev Read := StateT Reader Option

namespace Reader

def peek : Read (Option Token) :=
  return (← get).tokens.head?

def skip : Read Unit :=
  modify fun r => { r with tokens := r.tokens.tail }

/-- Skips a token if it comes next. -/
def accept (t : Token) : Read Bool := do
  if (← peek) == some t then
    skip
    return true
  else return false

/-- Is one of these tokens next, or the end? -/
def atAny (ts : List Token) : Read Bool := do
  match ← peek with
  | some t => return ts.contains t
  | none => return true

/-- The whole of a tag. -/
def fullTag (t : TagText) : Read Tag := do
  if t.handle.isEmpty then return ⟨t.suffix⟩
  else
    let some start := (← get).handles.lookup t.handle | failure
    return ⟨start ++ t.suffix⟩

/-- The number of an anchor: how many names there are before it. So a name that comes again takes
the number that the next new name takes too. -/
def numberAnchor (name : String) : Read Nat :=
  modifyGet fun r =>
    let number := r.anchors.length
    (number, { r with anchors := (name, number) :: r.anchors.filter (·.1 != name) })

/-- The anchor and the tag of a node, in either order. -/
def properties : Read (Option Nat × Option Tag) := do
  let anchor : Read (Option Nat) := do
    match ← peek with
    | some (.anchor name) => skip; return some (← numberAnchor name)
    | _ => return none
  let tag : Read (Option Tag) := do
    match ← peek with
    | some (.tag t) => skip; return some (← fullTag t)
    | _ => return none
  match ← anchor with
  | some number => return (some number, ← tag)
  | none =>
    let t ← tag
    return (← (if t.isSome then anchor else pure none), t)

/-! ## Nodes -/

/-- Where a node stands: among block collections, in one of their mappings, where a sequence needs
no indentation, or in a flow collection. -/
inductive Context
  | block
  | blockPair
  | flow
  deriving DecidableEq

mutual

def node : Nat → Context → Read Node
  | 0, _ => failure
  | fuel + 1, context => do
    match ← peek with
    | some (.alias name) =>
      skip
      let some number := (← get).anchors.lookup name | failure
      return .alias number
    | _ =>
      let (anchor, tag) ← properties
      content fuel context anchor tag

/-- A node behind its properties; with some it may be empty. -/
def content : Nat → Context → Option Nat → Option Tag → Read Node
  | 0, _, _, _ => failure
  | fuel + 1, context, anchor, tag => do
    match ← peek with
    | some (.scalar style text) =>
      skip
      return .scalar anchor tag style text
    | some .flowSequenceStart =>
      skip
      return .sequence anchor tag (← flowItems fuel true)
    | some .flowMappingStart =>
      skip
      return .mapping anchor tag (← flowPairs fuel true)
    | t =>
      if t == some .blockEntry && context == .blockPair then
        return .sequence anchor tag (← blockItems fuel false)
      else if t == some .blockSequenceStart && context != .flow then
        skip
        return .sequence anchor tag (← blockItems fuel true)
      else if t == some .blockMappingStart && context != .flow then
        skip
        return .mapping anchor tag (← blockPairs fuel)
      else if anchor.isSome || tag.isSome then return .scalar anchor tag .plain ""
      else failure

/-- The items of a block sequence, which ends with its own token if it is indented. -/
def blockItems : Nat → Bool → Read (List Node)
  | 0, _ => failure
  | fuel + 1, indented => do
    if ← accept .blockEntry then
      let others := if indented then [.blockEntry, .blockEnd]
        else [.blockEntry, .key, .value, .blockEnd]
      let item ← if ← atAny others then pure Node.empty else node fuel .block
      return item :: (← blockItems fuel indented)
    else if indented then
      if ← accept .blockEnd then return [] else failure
    else return []

def blockPairs : Nat → Read (List (Node × Node))
  | 0 => failure
  | fuel + 1 => do
    if ← accept .key then
      let k ← if ← atAny [.key, .value, .blockEnd] then pure Node.empty else node fuel .blockPair
      let v ← if ← accept .value then
          if ← atAny [.key, .value, .blockEnd] then pure Node.empty else node fuel .blockPair
        else pure Node.empty
      return (k, v) :: (← blockPairs fuel)
    else if ← accept .blockEnd then return []
    else failure

/-- The items of a flow sequence; a pair among them is a mapping with one entry. If the key of a pair
is missing, the token that stands there instead is passed over. -/
def flowItems : Nat → Bool → Read (List Node)
  | 0, _ => failure
  | fuel + 1, first => do
    if ← accept .flowSequenceEnd then return []
    else
      if !first then
        if !(← accept .flowEntry) then failure
      if ← accept .flowSequenceEnd then return []
      else
        let item ← if ← accept .key then
            let k ← if ← atAny [.value, .flowEntry, .flowSequenceEnd] then do
                skip
                pure Node.empty
              else node fuel .flow
            let v ← if ← accept .value then
                if ← atAny [.flowEntry, .flowSequenceEnd] then pure Node.empty
                else node fuel .flow
              else pure Node.empty
            pure (Node.mapping none none [(k, v)])
          else node fuel .flow
        return item :: (← flowItems fuel false)

def flowPairs : Nat → Bool → Read (List (Node × Node))
  | 0, _ => failure
  | fuel + 1, first => do
    if ← accept .flowMappingEnd then return []
    else
      if !first then
        if !(← accept .flowEntry) then failure
      if ← accept .flowMappingEnd then return []
      else
        let pair ← if ← accept .key then
            let k ← if ← atAny [.value, .flowEntry, .flowMappingEnd] then pure Node.empty
              else node fuel .flow
            let v ← if ← accept .value then
                if ← atAny [.flowEntry, .flowMappingEnd] then pure Node.empty
                else node fuel .flow
              else pure Node.empty
            pure (k, v)
          else
            let k ← node fuel .flow
            pure (k, Node.empty)
        return pair :: (← flowPairs fuel false)

end

/-! ## Documents -/

/-- The directives before a document: at most one version, and no handle twice. -/
def directives : Nat → Bool → Read Unit
  | 0, _ => failure
  | fuel + 1, versioned => do
    match ← peek with
    | some (.versionDirective major minor) =>
      if versioned || major != 1 || (minor != 1 && minor != 2) then failure
      skip
      directives fuel true
    | some (.tagDirective handle start) =>
      if ((← get).handles.lookup handle).isSome then failure
      skip
      modify fun r => { r with handles := (handle, start) :: r.handles }
      directives fuel versioned
    | _ => return ()

def standardHandles : List (String × List UInt8) :=
  [("!", Tag.nameless.bytes), ("!!", (Tag.standard "").bytes)]

/-- Moves over end markers. -/
def documentEnds : Nat → Read Unit
  | 0 => return ()
  | fuel + 1 => do
    if ← accept .documentEnd then documentEnds fuel

/-- The document of the text, if there is one. -/
def document (fuel : Nat) : Read (Option Node) := do
  let starts : Option Token → Bool
    | none => true
    | some (.versionDirective _ _) => true
    | some (.tagDirective _ _) => true
    | some t => t == .documentStart
  let addHandles : Read Unit :=
    modify fun r => { r with handles := r.handles ++ standardHandles }
  let result ← do
    if (← peek).isNone then pure none
    else if !starts (← peek) then
      addHandles
      pure (some (← node fuel .block))
    else
      directives fuel false
      addHandles
      if !(← accept .documentStart) then failure
      let next ← peek
      if starts next || next == some .documentEnd then pure (some Node.empty)
      else pure (some (← node fuel .block))
  documentEnds fuel
  if (← peek).isSome then failure
  return result

end Reader

/-- The node of a text with at most one document, `some none` if there is none. -/
def Node.read? (text : List Char) : Option (Option Node) := do
  let tokens ← Token.read? text
  let fuel := 4 * tokens.length + 16
  let (n, _) ← (Reader.document fuel).run { tokens }
  return n

end StructuredLog.Yaml
