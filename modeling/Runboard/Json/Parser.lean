import Runboard.Json.Lexeme

namespace Runboard.Json

/-- Looks for another element: the text from it on, or nothing before a closing bracket. -/
def nextElement (first : Bool) (cs : List Char) : Except Fault (Option (List Char)) :=
  match skipSpaces cs with
  | [] => .error (.atByte .eofInList [])
  | ']' :: _ => .ok none
  | c :: rest =>
    if first then .ok (some (c :: rest))
    else if c = ',' then
      match skipSpaces rest with
      | [] => .error (.atByte .eofInValue [])
      | ']' :: rest => .error (.atByte .trailingComma (']' :: rest))
      | rest => .ok (some rest)
    else .error (.atByte .expectedListEnd (c :: rest))

/-- Looks for another member: the text after the quote that opens its key, or nothing before a
closing brace. -/
def nextKey (first : Bool) (cs : List Char) : Except Fault (Option (List Char)) :=
  match skipSpaces cs with
  | [] => .error (.atByte .eofInObject [])
  | '\x7d' :: _ => .ok none
  | c :: rest =>
    if first then
      if c = '"' then .ok (some rest) else .error (.atByte .keyNotString (c :: rest))
    else if c = ',' then
      match skipSpaces rest with
      | [] => .error (.atByte .eofInValue [])
      | '"' :: rest => .ok (some rest)
      | '\x7d' :: rest => .error (.atByte .trailingComma ('\x7d' :: rest))
      | rest => .error (.atByte .keyNotString rest)
    else .error (.atByte .expectedObjectEnd (c :: rest))

def readColon (cs : List Char) : Except Fault (List Char) :=
  match skipSpaces cs with
  | [] => .error (.atByte .eofInObject [])
  | ':' :: rest => .ok rest
  | rest => .error (.atByte .expectedColon rest)

def closeArray (cs : List Char) : Except Fault (List Char) :=
  match skipSpaces cs with
  | [] => .error (.atByte .eofInList [])
  | ']' :: rest => .ok rest
  | ',' :: rest =>
    match skipSpaces rest with
    | ']' :: rest => .error (.atByte .trailingComma (']' :: rest))
    | rest => .error (.atByte .trailingCharacters rest)
  | rest => .error (.atByte .trailingCharacters rest)

def closeObject (cs : List Char) : Except Fault (List Char) :=
  match skipSpaces cs with
  | [] => .error (.atByte .eofInObject [])
  | '\x7d' :: rest => .ok rest
  | ',' :: rest => .error (.atByte .trailingComma (',' :: rest))
  | rest => .error (.atByte .trailingCharacters rest)

/-- Where an array is left when its contents are refused: behind its end, if that comes next. -/
def leaveArray (cs : List Char) : List Char :=
  match skipSpaces cs with
  | ']' :: rest => rest
  | ',' :: rest => skipSpaces rest
  | rest => rest

/-- Where an object is left when its contents are refused: behind its end, if that comes next. -/
def leaveObject (cs : List Char) : List Char :=
  match skipSpaces cs with
  | '\x7d' :: rest => rest
  | rest => rest

/-- Folds over the elements of an array up to its closing bracket; `fuel` bounds their number. -/
def foldElements {σ : Type} (step : σ → Reader σ) : (fuel : Nat) → (first : Bool) → σ → Reader σ
  | 0, _, _, cs => .error (.atByte .eofInList cs)
  | fuel + 1, first, state, cs => do
    match ← nextElement first cs with
    | none => return (state, cs)
    | some element =>
      let (state, rest) ← step state element
      foldElements step fuel false state rest

/-- Folds over the members of an object up to its closing brace. The step gets a key and reads
on from behind it; `fuel` bounds the number of members. -/
def foldMembers {σ : Type} (step : σ → String → Reader σ) :
    (fuel : Nat) → (first : Bool) → σ → Reader σ
  | 0, _, _, cs => .error (.atByte .eofInObject cs)
  | fuel + 1, first, state, cs => do
    match ← nextKey first cs with
    | none => return (state, cs)
    | some key =>
      let (key, rest) ← readString key
      let (state, rest) ← step state key rest
      foldMembers step fuel false state rest

/-- The elements of an array, from behind its opening bracket to behind its closing one. Every
element takes at least one character. -/
def readArray {σ : Type} (step : σ → Reader σ) (state : σ) : Reader σ := fun cs => do
  let (state, rest) ← foldElements step (cs.length + 1) true state cs
  return (state, ← closeArray rest)

/-- The members of an object, from behind its opening brace to behind its closing one. -/
def readObject {σ : Type} (step : σ → String → Reader σ) (state : σ) : Reader σ := fun cs => do
  let (state, rest) ← foldMembers step (cs.length + 1) true state cs
  return (state, ← closeObject rest)

def readScalar : Reader Json
  | 'n' :: rest => readLetters .null ['u', 'l', 'l'] rest
  | 't' :: rest => readLetters (.bool true) ['r', 'u', 'e'] rest
  | 'f' :: rest => readLetters (.bool false) ['a', 'l', 's', 'e'] rest
  | '"' :: rest => do
    let (s, rest) ← readString rest
    return (.string s, rest)
  | '-' :: rest => do
    let (n, rest) ← readNumber true rest
    return (.number n, rest)
  | [] => .error (.atByte .eofInValue [])
  | c :: rest =>
    if c.isDigit then do
      let (n, rest) ← readNumber false (c :: rest)
      return (.number n, rest)
    else .error (.atByte .expectedValue (c :: rest))

/-- A value, after any blanks, in which `depth` arrays and objects may be open at once. -/
def value : (depth : Nat) → Reader Json
  | depth, cs =>
    match skipSpaces cs with
    | '[' :: rest =>
      match depth with
      | 0 => .error (.atByte .tooDeep ('[' :: rest))
      | depth + 1 => do
        let (items, rest) ← readArray (fun items cs => do
          let (item, rest) ← value depth cs
          return (items ++ [item], rest)) [] rest
        return (.array items, rest)
    | '\x7b' :: rest =>
      match depth with
      | 0 => .error (.atByte .tooDeep ('\x7b' :: rest))
      | depth + 1 => do
        let (members, rest) ← readObject (fun members key cs => do
          let (member, rest) ← value depth (← readColon cs)
          return (Keyed.insert key member members, rest)) [] rest
        return (.object members, rest)
    | rest => readScalar rest

/-- A string in a place where nothing else is expected. The mismatch stands behind a scalar and
before an array or object. -/
def stringValue (expected : Expected) : Reader String := fun cs =>
  match skipSpaces cs with
  | '"' :: rest => readString rest
  | '[' :: rest => .error (.before (.mismatch (.invalidType (.array []) expected)) ('[' :: rest))
  | '\x7b' :: rest =>
    .error (.before (.mismatch (.invalidType (.object []) expected)) ('\x7b' :: rest))
  | cs => do
    let (found, rest) ← readScalar cs
    .error (.before (.mismatch (.invalidType found expected)) rest)

/-- Reads a whole text: nothing but blanks may follow. -/
def readAll {α : Type} (reader : Reader α) (text : List Char) : Except ReadError α :=
  let result : Except Fault α := do
    let (a, rest) ← reader text
    match skipSpaces rest with
    | [] => return a
    | rest => .error (.atByte .trailingCharacters rest)
  result.mapError (ReadError.ofFault text)

def parseChars (text : List Char) : Except ReadError Json := readAll (value maxDepth) text

def parse (text : String) : Except ReadError Json := parseChars text.toList

end Runboard.Json
