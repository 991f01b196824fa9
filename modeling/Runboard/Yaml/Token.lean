namespace Runboard.Yaml

inductive Style
  | plain
  | quoted
  | block
deriving DecidableEq, Repr, Inhabited

/-- A token. The starts and ends of block collections come from indentation. -/
inductive Token
  | streamStart
  | streamEnd
  | version (major minor : Nat)
  | tagHandle (handle expansion : String)
  | documentStart
  | documentEnd
  | blockSequenceStart
  | blockMappingStart
  | blockEnd
  | flowSequenceStart
  | flowSequenceEnd
  | flowMappingStart
  | flowMappingEnd
  | blockEntry
  | flowEntry
  | key
  | value
  | alias (name : String)
  | anchor (name : String)
  | tag (handle suffix : String)
  | scalar (text : String) (style : Style)
deriving DecidableEq, Repr, Inhabited

def isAllowed (c : Char) : Bool :=
  let n := c.toNat
  n == 0x09 || n == 0x0a || n == 0x0d || (0x20 ≤ n && n ≤ 0x7e) || n == 0x85 ||
    (0xa0 ≤ n && n ≤ 0xd7ff) || (0xe000 ≤ n && n ≤ 0xfffd) || 0x10000 ≤ n

/-- Spaces and tabs. -/
def isBlank (c : Char) : Bool := c == ' ' || c == '\t'

def isBreak (c : Char) : Bool :=
  c == '\n' || c == '\r' || c == '\u0085' || c == '\u2028' || c == '\u2029'

/-- Characters of words: anchors, handles and directive names. -/
def isWord (c : Char) : Bool := c.isAlphanum || c == '_' || c == '-'

structure Cursor where
  rest : List Char
  index : Nat := 0
  line : Nat := 0
  column : Nat := 0
deriving Repr, Inhabited

namespace Cursor

def sees (c : Cursor) (x : Char) : Bool := c.rest.head? == some x

/-- The next character is of this class; there is one. -/
def seesAny (c : Cursor) (p : Char → Bool) : Bool := c.rest.head?.any p

/-- The character `k` places further on is of this class, or the text ends before it. -/
def endsOr (c : Cursor) (k : Nat) (p : Char → Bool) : Bool :=
  match c.rest[k]? with
  | none => true
  | some x => p x

def atEnd (c : Cursor) : Bool := c.rest.isEmpty

def atBreak (c : Cursor) : Bool := c.endsOr 0 isBreak

/-- At a blank, a line end or the end of the text, `k` places further on. -/
def gapAt (c : Cursor) (k : Nat) : Bool := c.endsOr k fun x => isBlank x || isBreak x

/-- At a marker of three characters that begins or ends a document. -/
def atMarker (c : Cursor) (x : Char) : Bool :=
  c.column == 0 && c.rest.take 3 == [x, x, x] && c.gapAt 3

def atDocumentMarker (c : Cursor) : Bool := c.atMarker '-' || c.atMarker '.'

/-- Moves over characters that are no line ends. -/
def skip (c : Cursor) (count : Nat) : Cursor :=
  { c with rest := c.rest.drop count, index := c.index + count, column := c.column + count }

/-- Moves over characters of a class that has no line ends. -/
def skipWhile (p : Char → Bool) (c : Cursor) : Cursor := c.skip (c.rest.takeWhile p).length

/-- Takes characters of a class that has no line ends. -/
def takeWhile (p : Char → Bool) (c : Cursor) : String × Cursor :=
  (String.ofList (c.rest.takeWhile p), c.skipWhile p)

/-- Moves over a line end of so many characters. -/
def newline (c : Cursor) (count : Nat) : Cursor :=
  { rest := c.rest.drop count, index := c.index + count, line := c.line + 1, column := 0 }

/-- Takes a line end. All but the two separators of Unicode stand for a line feed; without a
line end nothing is taken. -/
def takeBreak (c : Cursor) : String × Cursor :=
  match c.rest with
  | '\r' :: '\n' :: _ => ("\n", c.newline 2)
  | x :: _ =>
    if x == '\u2028' || x == '\u2029' then (String.ofList [x], c.newline 1)
    else if isBreak x then ("\n", c.newline 1)
    else ("", c)
  | [] => ("", c)

def skipBreak (c : Cursor) : Cursor := c.takeBreak.2

def skipComment (c : Cursor) : Cursor :=
  if c.sees '#' then c.skipWhile (!isBreak ·) else c

/-- Moves to the next line over blanks and a comment; nothing else may be there. -/
def finishLine (c : Cursor) : Option Cursor :=
  let c := (c.skipWhile isBlank).skipComment
  if c.atBreak then some c.skipBreak else none

end Cursor

end Runboard.Yaml
