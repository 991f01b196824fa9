import Runboard.Yaml.Scalar.Flow
import Runboard.Yaml.Token

namespace Runboard.Yaml

/-- Characters that may follow an anchor or alias without a gap. -/
def endsAnchor (c : Char) : Bool :=
  isBlank c || isBreak c || c == '?' || c == ':' || c == ',' || c == ']' || c == '\x7d' ||
    c == '%' || c == '@' || c == '\x60'

/-- The name of an anchor or alias, from its indicator on. -/
def takeAnchorName (c : Cursor) : Option (String × Cursor) :=
  let (name, c) := (c.skip 1).takeWhile isWord
  if name.isEmpty || !c.endsOr 0 endsAnchor then none else some (name, c)

/-- Characters of a tag that need no escape. The last three only occur in verbatim tags and in
directives. -/
def isTagChar (verbatim : Bool) (c : Char) : Bool :=
  isWord c || ";/?:@&=+$.%!~*\x27()".toList.contains c || (verbatim && ",[]".toList.contains c)

def sequenceLength? (byte : Nat) : Option Nat :=
  if byte < 0x80 then some 1
  else if byte / 0x20 = 6 then some 2
  else if byte / 0x10 = 14 then some 3
  else if byte / 8 = 30 then some 4
  else none

/-- A byte written as a per cent sign and two hexadecimal digits. -/
def takeEscapedByte (c : Cursor) : Option (Nat × Cursor) :=
  match c.rest with
  | '%' :: a :: b :: _ => do
    return ((← Text.hexValue? a) * 16 + (← Text.hexValue? b), c.skip 3)
  | _ => none

def takeTailBytes : (count : Nat) → Cursor → Option (List Nat × Cursor)
  | 0, c => some ([], c)
  | count + 1, c => do
    let (byte, c) ← takeEscapedByte c
    if byte / 0x40 ≠ 2 then none
    let (more, c) ← takeTailBytes count c
    return (byte :: more, c)

/-- The code point spelled by the bytes of a character. -/
def codePoint : List Nat → Nat
  | [] => 0
  | [byte] => byte
  | first :: rest =>
    rest.foldl (fun n byte => n * 0x40 + byte % 0x40) (first % Nat.pow 2 (6 - rest.length))

def takeEscapedChar (c : Cursor) : Option (Char × Cursor) := do
  let (first, c) ← takeEscapedByte c
  let (more, c) ← takeTailBytes ((← sequenceLength? first) - 1) c
  return (Char.ofNat (codePoint (first :: more)), c)

def takeTagText (verbatim : Bool) : (fuel : Nat) → (text : String) → Cursor →
    Option (String × Cursor)
  | 0, _, _ => none
  | fuel + 1, text, c =>
    match c.rest with
    | [] => some (text, c)
    | x :: _ =>
      if x == '%' then do
        let (y, c) ← takeEscapedChar c
        takeTagText verbatim fuel (text.push y) c
      else if isTagChar verbatim x then takeTagText verbatim fuel (text.push x) (c.skip 1)
      else some (text, c)

/-- The part of a tag after its handle. It may be empty only if `head`, which comes before it, is
not. -/
def takeTagSuffix (verbatim : Bool) (head : String) (c : Cursor) : Option (String × Cursor) := do
  let (text, c) ← takeTagText verbatim (c.rest.length + 1) "" c
  if text.isEmpty && head.isEmpty then none
  else return (String.ofList (head.toList.drop 1) ++ text, c)

/-- A handle: an exclamation mark, or a word between two of them. In a tag the second one may be
missing, and the word is then no part of the handle. -/
def takeHandle (directive : Bool) (c : Cursor) : Option (String × Cursor) :=
  if !c.sees '!' then none
  else
    let (word, c) := (c.skip 1).takeWhile isWord
    if c.sees '!' then some ("!" ++ word ++ "!", c.skip 1)
    else if directive && !word.isEmpty then none
    else some ("!" ++ word, c)

/-- A handle that ends in an exclamation mark of its own. -/
def isFullHandle (handle : String) : Bool := 1 < handle.length && handle.endsWith "!"

/-- Handle and suffix of a tag, from its indicator on. The bare exclamation mark is a suffix
without a handle. -/
def takeTag (flow : Bool) (c : Cursor) : Option (Token × Cursor) := do
  let (handle, suffix, c) ←
    if c.rest[1]? == some '<' then do
      let (suffix, c) ← takeTagSuffix true "" (c.skip 2)
      if !c.sees '>' then none
      pure ("", suffix, c.skip 1)
    else do
      let (handle, c) ← takeHandle false c
      if isFullHandle handle then
        let (suffix, c) ← takeTagSuffix false "" c
        pure (handle, suffix, c)
      else
        let (suffix, c) ← takeTagSuffix false handle c
        pure (if suffix.isEmpty then ("", "!", c) else ("!", suffix, c))
  if c.gapAt 0 || (flow && c.sees ',') then return (.tag handle suffix, c) else none

/-- A number of at most nine digits. -/
def takeVersionNumber (c : Cursor) : Option (Nat × Cursor) :=
  let (digits, c) := c.takeWhile Char.isDigit
  if digits.isEmpty || 9 < digits.length then none
  else digits.toNat?.map fun n => (n, c)

def takeDirective (c : Cursor) : Option (Token × Cursor) := do
  let (name, c) := (c.skip 1).takeWhile isWord
  if name.isEmpty || !c.gapAt 0 then none
  let c := c.skipWhile isBlank
  let (token, c) ←
    if name == "YAML" then do
      let (major, c) ← takeVersionNumber c
      if !c.sees '.' then none
      let (minor, c) ← takeVersionNumber (c.skip 1)
      pure (Token.version major minor, c)
    else if name == "TAG" then do
      let (handle, c) ← takeHandle true c
      if !c.seesAny isBlank then none
      let (expansion, c) ← takeTagSuffix true "" (c.skipWhile isBlank)
      if !c.gapAt 0 then none
      pure (Token.tagHandle handle expansion, c)
    else none
  return (token, ← c.finishLine)

end Runboard.Yaml
