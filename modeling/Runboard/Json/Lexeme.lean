import Runboard.Json.Fault
import Runboard.Text.Basic

namespace Runboard.Json

open Text (hexValue?)

abbrev Reader (α : Type) := List Char → Except Fault (α × List Char)

def isSpace (c : Char) : Bool := c == ' ' || c == '\n' || c == '\t' || c == '\r'

def skipSpaces (cs : List Char) : List Char := cs.dropWhile isSpace

def readLetters (value : Json) : (letters : List Char) → Reader Json
  | [], cs => .ok (value, cs)
  | _ :: _, [] => .error (.before .eofInValue [])
  | letter :: letters, c :: rest =>
    if c = letter then readLetters value letters rest
    else .error (.atByte .expectedIdent (c :: rest))

def hexNumber? (a b c d : Char) : Option Nat := do
  return ((← hexValue? a) * 16 + (← hexValue? b)) * 256 + ((← hexValue? c) * 16 + (← hexValue? d))

def byteCount (cs : List Char) : Nat := cs.foldl (fun n c => n + c.utf8Size) 0

/-- The four digits of a hexadecimal escape. Four bytes are taken before they are looked at. -/
def readHex : Reader Nat := fun cs =>
  if byteCount (cs.take 4) < 4 then .error (.before .eofInString [])
  else
    match cs with
    | a :: b :: c :: d :: rest =>
      match hexNumber? a b c d with
      | some n => .ok (n, rest)
      | none => .error ⟨.invalidEscape, some ⟨cs, 4⟩⟩
    | _ => .error ⟨.invalidEscape, some ⟨cs, 4⟩⟩

def isLeading (n : Nat) : Bool := 0xd800 ≤ n && n ≤ 0xdbff

def isTrailing (n : Nat) : Bool := 0xdc00 ≤ n && n ≤ 0xdfff

def pairChar (leading trailing : Nat) : Char :=
  Char.ofNat ((leading - 0xd800) * 0x400 + (trailing - 0xdc00) + 0x10000)

def readTrailing (leading : Nat) : Reader Char
  | [] => .error (.before .eofInString [])
  | '\\' :: [] => .error (.before .eofInString [])
  | '\\' :: 'u' :: rest => do
    let (trailing, rest) ← readHex rest
    if isTrailing trailing then .ok (pairChar leading trailing, rest)
    else .error (.before .loneSurrogate rest)
  | '\\' :: rest => .error (.atByte .hexEscapeEnd rest)
  | rest => .error (.atByte .hexEscapeEnd rest)

def readEscape : Reader Char
  | [] => .error (.before .eofInString [])
  | '"' :: rest => .ok ('"', rest)
  | '\\' :: rest => .ok ('\\', rest)
  | '/' :: rest => .ok ('/', rest)
  | 'b' :: rest => .ok ('\x08', rest)
  | 'f' :: rest => .ok ('\x0c', rest)
  | 'n' :: rest => .ok ('\n', rest)
  | 'r' :: rest => .ok ('\r', rest)
  | 't' :: rest => .ok ('\t', rest)
  | 'u' :: rest => do
    let (n, rest) ← readHex rest
    if isTrailing n then .error (.before .loneSurrogate rest)
    else if isLeading n then readTrailing n rest
    else .ok (Char.ofNat n, rest)
  | rest => .error (.atByte .invalidEscape rest)

/-- One character of a string that is not its closing quote. -/
def readChar : Reader Char
  | [] => .error (.before .eofInString [])
  | '\\' :: rest => readEscape rest
  | c :: rest =>
    if c.toNat < 0x20 then .error (.atByte .controlCharacter (c :: rest)) else .ok (c, rest)

/-- Characters up to the closing quote, which is read too; `fuel` bounds their number. -/
def readChars : (fuel : Nat) → Reader (List Char)
  | 0, cs => .error (.before .eofInString cs)
  | _ + 1, '"' :: rest => .ok ([], rest)
  | fuel + 1, cs => do
    let (c, rest) ← readChar cs
    let (more, rest) ← readChars fuel rest
    return (c :: more, rest)

/-- A string after its opening quote. Every character takes at least one of the text. -/
def readString : Reader String := fun cs => do
  let (s, rest) ← readChars (cs.length + 1) cs
  return (String.ofList s, rest)

def wordMax : Nat := 0xffffffffffffffff

def exponentMax : Nat := 0x7fffffff

def digitValue (c : Char) : Nat := c.toNat - '0'.toNat

/-- Digits are added to a significand as long as it stays within 64 bits. Gives the significand,
the number of digits added and the text after them. -/
def takeDigits (significand : Nat) : List Char → Nat × Nat × List Char
  | [] => (significand, 0, [])
  | c :: rest =>
    if c.isDigit && significand * 10 + digitValue c ≤ wordMax then
      let (total, count, rest) := takeDigits (significand * 10 + digitValue c) rest
      (total, count + 1, rest)
    else (significand, 0, c :: rest)

/-- A float from its parts, unless it is too large. -/
def makeFloat (negative : Bool) (significand : Nat) (exponent : Int) : Reader Numeral := fun rest =>
  match Number.Binary.ofParts negative significand exponent with
  | some x => .ok (.float x, rest)
  | none => .error (.before .numberOutOfRange rest)

/-- Digits of an exponent: the exponent and the text after it, or nothing together with the text
after the digit that made it too large. -/
def takeExponent (exponent : Nat) : List Char → Option Nat × List Char
  | [] => (some exponent, [])
  | c :: rest =>
    if c.isDigit then
      if exponent * 10 + digitValue c ≤ exponentMax then
        takeExponent (exponent * 10 + digitValue c) rest
      else (none, rest)
    else (some exponent, c :: rest)

/-- The sign of an exponent: whether it is negative, and the text after it. -/
def exponentSign : List Char → Bool × List Char
  | '+' :: rest => (false, rest)
  | '-' :: rest => (true, rest)
  | cs => (false, cs)

/-- A number from its exponent mark on. An exponent beyond all bounds makes zero of a number
that is zero or tends to zero. -/
def readExponent (negative : Bool) (significand : Nat) (scale : Int) : Reader Numeral := fun cs =>
  let (down, cs) := exponentSign cs
  match cs with
  | [] => .error (.before .eofInValue [])
  | c :: rest =>
    if !c.isDigit then .error (.atByte .invalidNumber (c :: rest))
    else
      match takeExponent (digitValue c) rest with
      | (some exponent, rest) =>
        makeFloat negative significand (if down then scale - exponent else scale + exponent) rest
      | (none, rest) =>
        if significand ≠ 0 && !down then .error (.before .numberOutOfRange rest)
        else .ok (.float { Number.Binary.zero with negative }, rest.dropWhile Char.isDigit)

/-- A number from behind its integer and fraction digits on. -/
def readScaled (negative : Bool) (significand : Nat) (scale : Int) : Reader Numeral
  | 'e' :: rest => readExponent negative significand scale rest
  | 'E' :: rest => readExponent negative significand scale rest
  | cs => makeFloat negative significand scale cs

/-- A number from behind its decimal point on. Digits beyond 64 bits are dropped. -/
def readFraction (negative : Bool) (significand : Nat) (scale : Int) : Reader Numeral := fun cs =>
  match takeDigits significand cs with
  | (_, 0, []) => .error (.atByte .eofInValue [])
  | (significand, count, rest) =>
    if count = 0 && !(rest.head?.any Char.isDigit) then .error (.atByte .invalidNumber rest)
    else readScaled negative significand (scale - count) (rest.dropWhile Char.isDigit)

/-- A whole number with a sign. Zero with a minus, and what does not fit, are floats. -/
def makeInteger (negative : Bool) (significand : Nat) : Reader Numeral := fun rest =>
  if !negative then .ok (.integer significand, rest)
  else if significand = 0 || 0x8000000000000000 < significand then makeFloat true significand 0 rest
  else .ok (.integer (-significand), rest)

/-- A number from behind its integer digits on. Digits beyond 64 bits only scale it. -/
def readMagnitude (negative : Bool) (significand : Nat) : Reader Numeral := fun cs =>
  let surplus := cs.takeWhile Char.isDigit
  match cs.dropWhile Char.isDigit with
  | '.' :: rest => readFraction negative significand surplus.length rest
  | 'e' :: rest => readExponent negative significand surplus.length rest
  | 'E' :: rest => readExponent negative significand surplus.length rest
  | rest =>
    if surplus.isEmpty then makeInteger negative significand rest
    else makeFloat negative significand surplus.length rest

def readNumber (negative : Bool) : Reader Numeral
  | [] => .error (.before .eofInValue [])
  | '0' :: rest =>
    if rest.head?.any Char.isDigit then .error (.atByte .invalidNumber rest)
    else readMagnitude negative 0 rest
  | c :: rest =>
    if c.isDigit then
      let (significand, _, rest) := takeDigits (digitValue c) rest
      readMagnitude negative significand rest
    else .error (.atByte .invalidNumber (c :: rest))

end Runboard.Json
