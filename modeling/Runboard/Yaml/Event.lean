import Runboard.Yaml.Lexer

namespace Runboard.Yaml

structure Scalar where
  text : String := ""
  style : Style := .plain
  tag : Option String := none
deriving DecidableEq, Repr, Inhabited

/-- An event. Nodes carry the anchors that name them. -/
inductive Event
  | streamStart
  | streamEnd
  | documentStart
  | documentEnd
  | alias (name : String)
  | scalar (anchor : Option String) (scalar : Scalar)
  | sequenceStart (anchor : Option String)
  | sequenceEnd
  | mappingStart (anchor : Option String)
  | mappingEnd
deriving DecidableEq, Repr, Inhabited

inductive Expecting
  | stream
  | firstDocument
  | document
  | content
  | documentEnd
  | node
  | blockSequenceFirst
  | blockSequenceEntry
  | plainSequenceEntry
  | blockMappingFirst
  | blockMappingKey
  | blockMappingValue
  | flowSequenceFirst
  | flowSequenceEntry
  | flowPairKey
  | flowPairValue
  | flowPairEnd
  | flowMappingFirst
  | flowMappingKey
  | flowMappingValue
  | flowMappingNoValue
  | nothing
deriving DecidableEq, Repr, Inhabited

structure Grammar where
  lexer : Lexer
  expecting : Expecting := .stream
  /-- What is expected after the nodes that are being read, innermost first. -/
  pending : List Expecting := []
  /-- Tag handles of the document with what they stand for. -/
  handles : List (String × String) := []
deriving Repr, Inhabited

namespace Grammar

def peek (g : Grammar) : Option (Token × Grammar) := do
  let (t, lexer) ← g.lexer.peek
  return (t, { g with lexer })

def drop (g : Grammar) : Grammar := { g with lexer := g.lexer.drop }

/-- Takes the next token and looks at the one after it. -/
def dropPeek (g : Grammar) : Option (Token × Grammar) := g.drop.peek

def expect (g : Grammar) (e : Expecting) : Grammar := { g with expecting := e }

/-- Remembers what follows the node to be read now. -/
def after (g : Grammar) (e : Expecting) : Grammar := { g with pending := e :: g.pending }

/-- Goes on with what follows the node that is complete. -/
def resume (g : Grammar) : Grammar :=
  { g with expecting := g.pending.headD .nothing, pending := g.pending.drop 1 }

/-- A scalar that is not there. -/
def emptyScalar : Event := .scalar none {}

def standardHandles : List (String × String) := [("!", "!"), ("!!", "tag:yaml.org,2002:")]

/-- Directives in front of a document; none may come twice. `fuel` bounds their number. -/
def readDirectives : (fuel : Nat) → (version : Bool) → List (String × String) → Grammar →
    Option (List (String × String) × Grammar)
  | 0, _, _, _ => none
  | fuel + 1, version, handles, g => do
    let (t, g) ← g.peek
    match t with
    | .version major minor =>
      if version || major ≠ 1 || (minor ≠ 1 && minor ≠ 2) then none
      else readDirectives fuel true handles g.drop
    | .tagHandle handle expansion =>
      if handles.any (·.1 == handle) then none
      else readDirectives fuel version (handles ++ [(handle, expansion)]) g.drop
    | _ => return (handles, g)

def skipDocumentEnds : (fuel : Nat) → Grammar → Option Grammar
  | 0, _ => none
  | fuel + 1, g => do
    let (t, g) ← g.peek
    if t = .documentEnd then skipDocumentEnds fuel g.drop else return g

/-- A bound for the number of tokens to come. -/
def fuel (g : Grammar) : Nat := g.lexer.cursor.rest.length + g.lexer.queue.length + 4

/-- The start of a document, or the end of the text. Only the first document may do without its
marker. -/
def readDocumentStart (g : Grammar) (first : Bool) : Option (Event × Grammar) := do
  let g ← if first then some g else skipDocumentEnds g.fuel g
  let (t, g) ← g.peek
  let marked := match t with
    | .version .. => true
    | .tagHandle .. => true
    | .documentStart => true
    | _ => false
  if t = .streamEnd then return (.streamEnd, (g.expect .nothing).drop)
  else if first && !marked then
    return (.documentStart, { g.after .documentEnd with handles := standardHandles }.expect .node)
  else
    let (handles, g) ← readDirectives g.fuel false [] g
    let (t, g) ← g.peek
    if t ≠ .documentStart then none
    return (.documentStart,
      ({ g.after .documentEnd with handles := handles ++ standardHandles }.expect .content).drop)

/-- Anchor and tag in front of a node, in either order. -/
def readProperties (g : Grammar) :
    Option (Option String × Option (String × String) × Token × Grammar) := do
  let (t, g) ← g.peek
  match t with
  | .anchor name =>
    let (t, g) ← g.dropPeek
    match t with
    | .tag handle suffix =>
      let (t, g) ← g.dropPeek
      return (some name, some (handle, suffix), t, g)
    | t => return (some name, none, t, g)
  | .tag handle suffix =>
    let (t, g) ← g.dropPeek
    match t with
    | .anchor name =>
      let (t, g) ← g.dropPeek
      return (some name, some (handle, suffix), t, g)
    | t => return (none, some (handle, suffix), t, g)
  | t => return (none, none, t, g)

/-- The full tag of a handle and a suffix. The handle must be known. -/
def resolveTag (g : Grammar) (tag : String × String) : Option String :=
  if tag.1.isEmpty then some tag.2
  else (g.handles.find? (·.1 == tag.1)).map fun (_, expansion) => expansion ++ tag.2

/-- A node. Block collections can only start in a block, and a sequence that is not indented only
as the key or value of a block mapping. -/
def readNode (g : Grammar) (block plainSequence : Bool) : Option (Event × Grammar) := do
  let (t, g) ← g.peek
  if let .alias name := t then return (.alias name, g.resume.drop)
  let (anchor, tag, t, g) ← g.readProperties
  let tag ← match tag with
    | none => some none
    | some tag => (g.resolveTag tag).map some
  if plainSequence && t = .blockEntry then
    return (.sequenceStart anchor, g.expect .plainSequenceEntry)
  match t with
  | .scalar text style => return (.scalar anchor { text, style, tag }, g.resume.drop)
  | .flowSequenceStart => return (.sequenceStart anchor, g.expect .flowSequenceFirst)
  | .flowMappingStart => return (.mappingStart anchor, g.expect .flowMappingFirst)
  | t =>
    if block && t = .blockSequenceStart then
      return (.sequenceStart anchor, g.expect .blockSequenceFirst)
    else if block && t = .blockMappingStart then
      return (.mappingStart anchor, g.expect .blockMappingFirst)
    else if anchor.isSome || tag.isSome then return (.scalar anchor { tag }, g.resume)
    else none

/-- The content of a document that began with a marker; it may be missing. -/
def readContent (g : Grammar) : Option (Event × Grammar) := do
  let (t, g) ← g.peek
  match t with
  | .version .. => return (emptyScalar, g.resume)
  | .tagHandle .. => return (emptyScalar, g.resume)
  | .documentStart => return (emptyScalar, g.resume)
  | .documentEnd => return (emptyScalar, g.resume)
  | .streamEnd => return (emptyScalar, g.resume)
  | _ => g.readNode true false

def readDocumentEnd (g : Grammar) : Option (Event × Grammar) := do
  let (t, g) ← g.peek
  let g := if t = .documentEnd then g.drop else g
  return (.documentEnd, { g with handles := [] }.expect .document)

/-- A node, unless one of these tokens comes instead, which stands for an empty scalar. -/
def readNodeUnless (g : Grammar) (t : Token) (without : List Token) (next : Expecting)
    (block plainSequence : Bool) : Option (Event × Grammar) :=
  if without.contains t then some (emptyScalar, g.expect next)
  else (g.after next).readNode block plainSequence

def readBlockEntry (g : Grammar) : Option (Event × Grammar) := do
  let (t, g) ← g.peek
  match t with
  | .blockEntry =>
    let (t, g) ← g.dropPeek
    g.readNodeUnless t [.blockEntry, .blockEnd] .blockSequenceEntry true false
  | .blockEnd => return (.sequenceEnd, g.resume.drop)
  | _ => none

/-- An element of a sequence that is not indented, or its end. -/
def readPlainEntry (g : Grammar) : Option (Event × Grammar) := do
  let (t, g) ← g.peek
  if t = .blockEntry then
    let (t, g) ← g.dropPeek
    g.readNodeUnless t [.blockEntry, .key, .value, .blockEnd] .plainSequenceEntry true false
  else return (.sequenceEnd, g.resume)

def readBlockKey (g : Grammar) : Option (Event × Grammar) := do
  let (t, g) ← g.peek
  match t with
  | .key =>
    let (t, g) ← g.dropPeek
    g.readNodeUnless t [.key, .value, .blockEnd] .blockMappingValue true true
  | .blockEnd => return (.mappingEnd, g.resume.drop)
  | _ => none

def readBlockValue (g : Grammar) : Option (Event × Grammar) := do
  let (t, g) ← g.peek
  if t = .value then
    let (t, g) ← g.dropPeek
    g.readNodeUnless t [.key, .value, .blockEnd] .blockMappingKey true true
  else return (emptyScalar, g.expect .blockMappingKey)

def readComma (g : Grammar) (first : Bool) (t : Token) : Option (Token × Grammar) :=
  if first then some (t, g) else if t = .flowEntry then g.dropPeek else none

/-- An element of a flow sequence, or its end. An element may be a single pair. -/
def readFlowEntry (g : Grammar) (first : Bool) : Option (Event × Grammar) := do
  let (t, g) ← g.peek
  if t = .flowSequenceEnd then return (.sequenceEnd, g.resume.drop)
  let (t, g) ← g.readComma first t
  if t = .key then return (.mappingStart none, (g.expect .flowPairKey).drop)
  else if t = .flowSequenceEnd then return (.sequenceEnd, g.resume.drop)
  else (g.after .flowSequenceEntry).readNode false false

/-- The key of a single pair. The token that stands in its place is taken with it. -/
def readPairKey (g : Grammar) : Option (Event × Grammar) := do
  let (t, g) ← g.peek
  if [Token.value, .flowEntry, .flowSequenceEnd].contains t then
    return (emptyScalar, (g.expect .flowPairValue).drop)
  else (g.after .flowPairValue).readNode false false

def readPairValue (g : Grammar) : Option (Event × Grammar) := do
  let (t, g) ← g.peek
  if t = .value then
    let (t, g) ← g.dropPeek
    g.readNodeUnless t [.flowEntry, .flowSequenceEnd] .flowPairEnd false false
  else return (emptyScalar, g.expect .flowPairEnd)

/-- A key of a flow mapping, or its end. A node without a key mark has no value. -/
def readFlowKey (g : Grammar) (first : Bool) : Option (Event × Grammar) := do
  let (t, g) ← g.peek
  if t = .flowMappingEnd then return (.mappingEnd, g.resume.drop)
  let (t, g) ← g.readComma first t
  if t = .key then
    let (t, g) ← g.dropPeek
    g.readNodeUnless t [.value, .flowEntry, .flowMappingEnd] .flowMappingValue false false
  else if t = .flowMappingEnd then return (.mappingEnd, g.resume.drop)
  else (g.after .flowMappingNoValue).readNode false false

def readFlowValue (g : Grammar) : Option (Event × Grammar) := do
  let (t, g) ← g.peek
  if t = .value then
    let (t, g) ← g.dropPeek
    g.readNodeUnless t [.flowEntry, .flowMappingEnd] .flowMappingKey false false
  else return (emptyScalar, g.expect .flowMappingKey)

/-- The next event, unless the text is at fault or over. -/
def next (g : Grammar) : Option (Event × Grammar) := do
  match g.expecting with
  | .stream =>
    let (_, g) ← g.peek
    return (.streamStart, (g.expect .firstDocument).drop)
  | .firstDocument => g.readDocumentStart true
  | .document => g.readDocumentStart false
  | .content => g.readContent
  | .documentEnd => g.readDocumentEnd
  | .node => g.readNode true false
  | .blockSequenceFirst =>
    let (_, g) ← g.peek
    g.drop.readBlockEntry
  | .blockSequenceEntry => g.readBlockEntry
  | .plainSequenceEntry => g.readPlainEntry
  | .blockMappingFirst =>
    let (_, g) ← g.peek
    g.drop.readBlockKey
  | .blockMappingKey => g.readBlockKey
  | .blockMappingValue => g.readBlockValue
  | .flowSequenceFirst =>
    let (_, g) ← g.peek
    g.drop.readFlowEntry true
  | .flowSequenceEntry => g.readFlowEntry false
  | .flowPairKey => g.readPairKey
  | .flowPairValue => g.readPairValue
  | .flowPairEnd =>
    let (_, g) ← g.peek
    return (.mappingEnd, g.expect .flowSequenceEntry)
  | .flowMappingFirst =>
    let (_, g) ← g.peek
    g.drop.readFlowKey true
  | .flowMappingKey => g.readFlowKey false
  | .flowMappingValue => g.readFlowValue
  | .flowMappingNoValue =>
    let (_, g) ← g.peek
    return (emptyScalar, g.expect .flowMappingKey)
  | .nothing => none

def ofText (text : List Char) : Grammar := { lexer := .ofText text }

end Grammar

end Runboard.Yaml
