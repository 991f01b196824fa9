import Runboard.Json.Parser

namespace Runboard.Json

def skipChar : List Char → Except Fault (List Char)
  | [] => .error (.before .eofInString [])
  | '\\' :: 'u' :: rest => do
    let (_, rest) ← readHex rest
    return rest
  | '\\' :: rest => do
    let (_, rest) ← readEscape rest
    return rest
  | c :: rest => if c.toNat < 0x20 then .error (.before .controlCharacter (c :: rest)) else .ok rest

/-- A string after its opening quote; `fuel` bounds the number of its characters. -/
def skipChars : (fuel : Nat) → List Char → Except Fault (List Char)
  | 0, cs => .error (.before .eofInString cs)
  | _ + 1, '"' :: rest => .ok rest
  | fuel + 1, cs => do skipChars fuel (← skipChar cs)

def skipString (cs : List Char) : Except Fault (List Char) := skipChars (cs.length + 1) cs

def skipExponent (cs : List Char) : Except Fault (List Char) :=
  match (exponentSign cs).2 with
  | [] => .error (.before .invalidNumber [])
  | c :: rest =>
    if c.isDigit then .ok (rest.dropWhile Char.isDigit)
    else .error (.atByte .invalidNumber (c :: rest))

def skipScaled : List Char → Except Fault (List Char)
  | 'e' :: rest => skipExponent rest
  | 'E' :: rest => skipExponent rest
  | cs => .ok cs

def skipMagnitude : List Char → Except Fault (List Char)
  | '.' :: rest =>
    if rest.head?.any Char.isDigit then skipScaled (rest.dropWhile Char.isDigit)
    else .error (.atByte .invalidNumber rest)
  | cs => skipScaled cs

def skipNumber : List Char → Except Fault (List Char)
  | [] => .error (.before .invalidNumber [])
  | '0' :: rest =>
    if rest.head?.any Char.isDigit then .error (.atByte .invalidNumber rest)
    else skipMagnitude rest
  | c :: rest =>
    if c.isDigit then skipMagnitude (rest.dropWhile Char.isDigit)
    else .error (.atByte .invalidNumber (c :: rest))

def skipScalar : List Char → Except Fault (List Char)
  | '"' :: rest => skipString rest
  | '-' :: rest => skipNumber rest
  | cs =>
    if cs.head?.any Char.isDigit then skipNumber cs
    else do
      let (_, rest) ← readScalar cs
      return rest

/-- An array or object that has been opened. -/
inductive Enclosure
  | array
  | object
deriving DecidableEq, Repr

namespace Enclosure

def close : Enclosure → Char
  | .array => ']'
  | .object => '\x7d'

/-- The fault of a text that ends inside it. -/
def eof : Enclosure → Cause
  | .array => .eofInList
  | .object => .eofInObject

/-- The fault of a value in it that neither comma nor end follows. -/
def expectedEnd : Enclosure → Cause
  | .array => .expectedListEnd
  | .object => .expectedObjectEnd

end Enclosure

/-- The key and colon before a member that is passed over. -/
def skipKey (cs : List Char) : Except Fault (List Char) :=
  match skipSpaces cs with
  | [] => .error (.atByte .eofInObject [])
  | '"' :: rest => do readColon (← skipString rest)
  | rest => .error (.atByte .keyNotString rest)

mutual

/-- A value inside the enclosures that are open, and all that follows until they are closed. -/
def skipValueIn : (fuel : Nat) → List Enclosure → List Char → Except Fault (List Char)
  | 0, _, cs => .error (.atByte .eofInValue cs)
  | fuel + 1, enclosing, cs =>
    match skipSpaces cs with
    | '[' :: rest => skipRest fuel false (.array :: enclosing) rest
    | '\x7b' :: rest => skipRest fuel false (.object :: enclosing) rest
    | rest => do skipRest fuel true enclosing (← skipScalar rest)

/-- What follows behind an opening bracket or, if a comma may come, behind a value. -/
def skipRest : (fuel : Nat) → (comma : Bool) → List Enclosure → List Char →
    Except Fault (List Char)
  | 0, _, _, cs => .error (.atByte .eofInValue cs)
  | _ + 1, _, [], cs => .ok cs
  | fuel + 1, comma, inner :: outer, cs =>
    match skipSpaces cs with
    | [] => .error (.atByte inner.eof [])
    | c :: rest =>
      if c = inner.close then skipRest fuel true outer rest
      else if comma && c ≠ ',' then .error (.atByte inner.expectedEnd (c :: rest))
      else do
        let next := if comma then rest else c :: rest
        skipValueIn fuel (inner :: outer) (← if inner = .object then skipKey next else .ok next)

end

/-- Passes over a value. Each step but every second one takes a character. -/
def skipValue (cs : List Char) : Except Fault (List Char) := skipValueIn (2 * cs.length + 2) [] cs

end Runboard.Json
