import Runboard.Yaml.Property
import Runboard.Yaml.Scalar.Block
import Runboard.Yaml.Scalar.Flow

/-!
The tokens of a YAML text, produced on demand.

A scalar may turn out to be a key only when the colon behind it is found. Until then its place in
the queue is remembered as a possible key, and tokens are not handed out from that place on. How
far the lexer has to read ahead decides which fault is met first, so tokens are never read
earlier than they are needed.
-/

namespace Runboard.Yaml

/-- A place in the queue where a key may start. -/
structure PossibleKey where
  /-- Number of the token, counted from the start of the text. -/
  token : Nat
  /-- The place must be a key: something there is indented like the keys around it. -/
  required : Bool
  index : Nat
  line : Nat
  column : Nat
deriving Repr, Inhabited

structure Lexer where
  cursor : Cursor
  /-- Tokens that were read and not handed out. -/
  queue : List Token := []
  /-- Number of tokens handed out. -/
  taken : Nat := 0
  started : Bool := false
  flowLevel : Nat := 0
  indent : Int := -1
  indents : List Int := []
  /-- A key may start here. -/
  keyAllowed : Bool := false
  /-- The possible key of each open flow collection, innermost first, and of the block. -/
  keys : List (Option PossibleKey) := []
deriving Repr, Inhabited

namespace Lexer

def push (l : Lexer) (t : Token) : Lexer := { l with queue := l.queue ++ [t] }

/-- Puts a token into the queue in front of the one with a number. -/
def insertAt (l : Lexer) (number : Nat) (t : Token) : Lexer :=
  let place := number - l.taken
  { l with queue := l.queue.take place ++ t :: l.queue.drop place }

def key? (l : Lexer) : Option PossibleKey := l.keys.head?.join

def setKey (l : Lexer) (key : Option PossibleKey) : Lexer := { l with keys := key :: l.keys.drop 1 }

/-- Gives up the possible key of the innermost collection, which must not be required. -/
def dropKey (l : Lexer) : Option Lexer :=
  if l.key?.any PossibleKey.required then none else some (l.setKey none)

/-- Notes that a key may start here, if it may. -/
def saveKey (l : Lexer) : Option Lexer :=
  if l.keyAllowed then do
    let key : PossibleKey :=
      { token := l.taken + l.queue.length
        required := l.flowLevel == 0 && l.indent == l.cursor.column
        index := l.cursor.index
        line := l.cursor.line
        column := l.cursor.column }
    return (← l.dropKey).setKey (some key)
  else some l

/-- A key is on one line and at most 1024 characters long. -/
def isStale (c : Cursor) (key : PossibleKey) : Bool :=
  key.line < c.line || key.index + 1024 < c.index

/-- Gives up all keys that are too long by now, none of which must be required. -/
def dropStale (l : Lexer) : Option Lexer :=
  let stale (key : Option PossibleKey) : Bool := key.any (isStale l.cursor)
  if l.keys.any fun key => stale key && key.any PossibleKey.required then none
  else some { l with keys := l.keys.map fun key => if stale key then none else key }

/-- Opens a block collection at a column that is further in than the one around it. The token
goes to the end of the queue or in front of the token with a number. -/
def roll (l : Lexer) (column : Nat) (number : Option Nat) (t : Token) : Lexer :=
  if l.flowLevel == 0 && l.indent < column then
    let l := { l with indents := l.indent :: l.indents, indent := column }
    match number with
    | none => l.push t
    | some number => l.insertAt number t
  else l

/-- Closes block collections that are further in than a column. -/
def unrollTo (column : Int) : List Int → Lexer → Lexer
  | [], l => l
  | outer :: indents, l =>
    if column < l.indent then
      unrollTo column indents ({ l with indent := outer, indents }.push .blockEnd)
    else l

/-- Closes block collections that are further in than a column, outside flow collections. -/
def unroll (l : Lexer) (column : Int) : Lexer :=
  if l.flowLevel == 0 then unrollTo column l.indents l else l

def skip (l : Lexer) (count : Nat) : Lexer := { l with cursor := l.cursor.skip count }

def inFlow (l : Lexer) : Bool := l.flowLevel != 0

/-- Moves over blanks, comments and line ends. Outside flow collections a key may start on a new
line, and tabs are not taken where a key may start. -/
def skipGap : (fuel : Nat) → Lexer → Lexer
  | 0, l => l
  | fuel + 1, l =>
    let c := l.cursor
    let c := if c.column == 0 && c.sees '\ufeff' then c.skip 1 else c
    let tabs := l.inFlow || !l.keyAllowed
    let c := (c.skipWhile fun x => x == ' ' || (tabs && x == '\t')).skipComment
    if c.seesAny isBreak then
      skipGap fuel { l with cursor := c.skipBreak, keyAllowed := l.keyAllowed || !l.inFlow }
    else { l with cursor := c }

/-- The end of the text closes everything. -/
def readEnd (l : Lexer) : Option Lexer := do
  let c := l.cursor
  let c := if c.column == 0 then c else { c with column := 0, line := c.line + 1 }
  let l ← ({ l with cursor := c }.unroll (-1)).dropKey
  return { l with keyAllowed := false }.push .streamEnd

def readDirective (l : Lexer) : Option Lexer := do
  let l ← (l.unroll (-1)).dropKey
  let (t, cursor) ← takeDirective l.cursor
  return { l with cursor, keyAllowed := false }.push t

def readMarker (l : Lexer) (t : Token) : Option Lexer := do
  let l ← (l.unroll (-1)).dropKey
  return ({ l with keyAllowed := false }.skip 3).push t

/-- The start of a flow collection, which may itself be a key. -/
def readFlowStart (l : Lexer) (t : Token) : Option Lexer := do
  let l ← l.saveKey
  let l := { l with keys := none :: l.keys, flowLevel := l.flowLevel + 1, keyAllowed := true }
  return (l.skip 1).push t

def readFlowEnd (l : Lexer) (t : Token) : Option Lexer := do
  let l ← l.dropKey
  let l := if l.inFlow then { l with keys := l.keys.drop 1, flowLevel := l.flowLevel - 1 } else l
  return ({ l with keyAllowed := false }.skip 1).push t

/-- A comma in a flow collection. -/
def readFlowEntry (l : Lexer) : Option Lexer := do
  let l ← l.dropKey
  return ({ l with keyAllowed := true }.skip 1).push .flowEntry

/-- A dash before an element of a block sequence. -/
def readBlockEntry (l : Lexer) : Option Lexer := do
  if !l.inFlow && !l.keyAllowed then none
  let l ← (l.roll l.cursor.column none .blockSequenceStart).dropKey
  return ({ l with keyAllowed := true }.skip 1).push .blockEntry

/-- A question mark before a key. -/
def readKeyMark (l : Lexer) : Option Lexer := do
  if !l.inFlow && !l.keyAllowed then none
  let l ← (l.roll l.cursor.column none .blockMappingStart).dropKey
  return ({ l with keyAllowed := !l.inFlow }.skip 1).push .key

/-- A colon before a value. If a key is possible, it now is one. -/
def readValueMark (l : Lexer) : Option Lexer :=
  match l.key? with
  | some key =>
    let l := (l.insertAt key.token .key).roll key.column (some key.token) .blockMappingStart
    some (({ l.setKey none with keyAllowed := false }.skip 1).push .value)
  | none =>
    if !l.inFlow && !l.keyAllowed then none
    else
      let l := l.roll l.cursor.column none .blockMappingStart
      some (({ l with keyAllowed := !l.inFlow }.skip 1).push .value)

/-- An anchor or alias, which may start a key. -/
def readAnchor (l : Lexer) (t : String → Token) : Option Lexer := do
  let l ← l.saveKey
  let (name, cursor) ← takeAnchorName l.cursor
  return { l with cursor, keyAllowed := false }.push (t name)

def readTag (l : Lexer) : Option Lexer := do
  let l ← l.saveKey
  let (t, cursor) ← takeTag l.inFlow l.cursor
  return { l with cursor, keyAllowed := false }.push t

/-- A block scalar, which is never a key. -/
def readBlock (l : Lexer) (literal : Bool) : Option Lexer := do
  let l ← l.dropKey
  let (text, cursor) ← Block.take literal l.indent l.cursor
  return { l with cursor, keyAllowed := true }.push (.scalar text .block)

/-- A quoted scalar, which may be a key. -/
def readQuoted (l : Lexer) (quote : Char) : Option Lexer := do
  let l ← l.saveKey
  let (text, cursor) ← Quoted.take quote l.cursor
  return { l with cursor, keyAllowed := false }.push (.scalar text .quoted)

/-- A plain scalar, which may be a key. -/
def readPlain (l : Lexer) : Option Lexer := do
  let l ← l.saveKey
  let (text, broken, cursor) ← Plain.take l.inFlow l.indent l.cursor
  return { l with cursor, keyAllowed := broken }.push (.scalar text .plain)

def isIndicator (c : Char) : Bool := "-?:,[]\x7b\x7d#&*!|>\x27\"%@`".toList.contains c

def startsPlain (l : Lexer) (x : Char) : Bool :=
  !(isBlank x || isBreak x || isIndicator x) ||
    (x == '-' && !(l.cursor.rest[1]?).any isBlank) ||
    (!l.inFlow && (x == '?' || x == ':') && !l.cursor.gapAt 1)

def readToken (l : Lexer) : Option Lexer := do
  if !l.started then
    return { l with started := true, keyAllowed := true, keys := none :: l.keys }.push .streamStart
  let l ← (skipGap (l.cursor.rest.length + 1) l).dropStale
  let l := l.unroll l.cursor.column
  let c := l.cursor
  match c.rest with
  | [] => l.readEnd
  | x :: _ =>
    if c.column == 0 && x == '%' then l.readDirective
    else if c.atMarker '-' then l.readMarker .documentStart
    else if c.atMarker '.' then l.readMarker .documentEnd
    else if x == '[' then l.readFlowStart .flowSequenceStart
    else if x == '\x7b' then l.readFlowStart .flowMappingStart
    else if x == ']' then l.readFlowEnd .flowSequenceEnd
    else if x == '\x7d' then l.readFlowEnd .flowMappingEnd
    else if x == ',' then l.readFlowEntry
    else if x == '-' && c.gapAt 1 then l.readBlockEntry
    else if x == '?' && (l.inFlow || c.gapAt 1) then l.readKeyMark
    else if x == ':' && (l.inFlow || c.gapAt 1) then l.readValueMark
    else if x == '*' then l.readAnchor .alias
    else if x == '&' then l.readAnchor .anchor
    else if x == '!' then l.readTag
    else if x == '|' && !l.inFlow then l.readBlock true
    else if x == '>' && !l.inFlow then l.readBlock false
    else if x == '\x27' then l.readQuoted '\x27'
    else if x == '"' then l.readQuoted '"'
    else if l.startsPlain x then l.readPlain
    else none

/-- Reads tokens until the first of the queue is certain; `fuel` bounds their number. -/
def fill : (fuel : Nat) → Lexer → Option Lexer
  | 0, _ => none
  | fuel + 1, l =>
    if l.queue.isEmpty then do fill fuel (← l.readToken)
    else do
      let l ← l.dropStale
      if l.keys.any fun key => key.any (·.token == l.taken) then fill fuel (← l.readToken)
      else return l

/-- The next token, which stays in the queue. Every token but two takes a character. -/
def peek (l : Lexer) : Option (Token × Lexer) := do
  let l ← fill (l.cursor.rest.length + 4) l
  return (← l.queue.head?, l)

def drop (l : Lexer) : Lexer := { l with queue := l.queue.drop 1, taken := l.taken + 1 }

def ofText (text : List Char) : Lexer := { cursor := { rest := text } }

end Lexer

end Runboard.Yaml
