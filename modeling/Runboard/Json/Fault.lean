import Runboard.Json.Mismatch

/-!
Faults of JSON text and where they stand.

While reading, the place of a fault is kept as the text still unread at that moment, with a
number of further bytes that count as read. Line and column are computed once, from the whole
text: lines count from one, and the column is the number of bytes of the current line that have
been read.
-/

namespace Runboard.Json

inductive Cause
  | eofInList
  | eofInObject
  | eofInString
  | eofInValue
  | expectedColon
  | expectedListEnd
  | expectedObjectEnd
  | expectedIdent
  | expectedValue
  | invalidEscape
  | invalidNumber
  | numberOutOfRange
  | controlCharacter
  | keyNotString
  | loneSurrogate
  | trailingComma
  | trailingCharacters
  | hexEscapeEnd
  | tooDeep
  | mismatch (m : Mismatch)
deriving Repr

def Cause.message : Cause → String
  | .eofInList => "EOF while parsing a list"
  | .eofInObject => "EOF while parsing an object"
  | .eofInString => "EOF while parsing a string"
  | .eofInValue => "EOF while parsing a value"
  | .expectedColon => "expected `:`"
  | .expectedListEnd => "expected `,` or `]`"
  | .expectedObjectEnd => "expected `,` or `\x7d`"
  | .expectedIdent => "expected ident"
  | .expectedValue => "expected value"
  | .invalidEscape => "invalid escape"
  | .invalidNumber => "invalid number"
  | .numberOutOfRange => "number out of range"
  | .controlCharacter => "control character (\\u0000-\\u001F) found while parsing a string"
  | .keyNotString => "key must be a string"
  | .loneSurrogate => "lone leading surrogate in hex escape"
  | .trailingComma => "trailing comma"
  | .trailingCharacters => "trailing characters"
  | .hexEscapeEnd => "unexpected end of hex escape"
  | .tooDeep => "recursion limit exceeded"
  | .mismatch m => m.message

/-- A place in a text: what is unread, and how many bytes of it count as read. -/
structure Place where
  rest : List Char
  extra : Nat
deriving Repr

/-- A cause at a place. A mismatch found in a value that has already been read has no place. -/
structure Fault where
  cause : Cause
  place : Option Place
deriving Repr

namespace Fault

/-- A fault right before the unread text. -/
def before (cause : Cause) (rest : List Char) : Fault := ⟨cause, some ⟨rest, 0⟩⟩

/-- A fault at the first unread byte, which counts as read if there is one. -/
def atByte (cause : Cause) (rest : List Char) : Fault := ⟨cause, some ⟨rest, 1⟩⟩

/-- A mismatch in a value that has already been read. -/
def unplaced (m : Mismatch) : Fault := ⟨.mismatch m, none⟩

end Fault

structure Position where
  line : Nat
  column : Nat
deriving DecidableEq, Repr

namespace Position

def start : Position := ⟨1, 0⟩

/-- After `bytes` bytes of one more character. -/
def advance (p : Position) (c : Char) (bytes : Nat) : Position :=
  if c = '\n' then ⟨p.line + 1, 0⟩ else ⟨p.line, p.column + bytes⟩

def after (p : Position) (text : List Char) : Position :=
  text.foldl (fun p c => p.advance c c.utf8Size) p

/-- After that many bytes of a text, or after the whole of it if it is shorter. -/
def afterBytes (p : Position) : (bytes : Nat) → List Char → Position
  | _, [] => p
  | 0, _ => p
  | bytes + 1, c :: rest =>
    if c.utf8Size ≤ bytes + 1 then
      afterBytes (p.advance c c.utf8Size) (bytes + 1 - c.utf8Size) rest
    else p.advance c (bytes + 1)
termination_by _ text => text.length

end Position

def Place.position (text : List Char) (place : Place) : Position :=
  (Position.start.after (text.take (text.length - place.rest.length))).afterBytes
    place.extra place.rest

/-- Why a text could not be read, with line and column where there are any. -/
structure ReadError where
  cause : Cause
  position : Option Position
deriving Repr

namespace ReadError

/-- The wording of an error, followed by its position. -/
def message (e : ReadError) : String :=
  match e.position with
  | none => e.cause.message
  | some p => e.cause.message ++ " at line " ++ toString p.line ++ " column " ++ toString p.column

/-- Puts a fault into the text in which it was found. -/
def ofFault (text : List Char) (fault : Fault) : ReadError :=
  ⟨fault.cause, fault.place.map (Place.position text)⟩

end ReadError

end Runboard.Json
