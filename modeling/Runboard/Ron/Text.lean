import Runboard.Ron.Scan
import Runboard.Text.Basic

namespace Runboard.Ron

def takeHex : Scan Nat := do
  match Text.hexValue? (← takeAny) with
  | some d => return d
  | none => failure

def takeByte : Scan UInt8 := do
  let high ← takeHex
  let low ← takeHex
  return (16 * high + low).toUInt8

/-- Takes further byte escapes until the bytes make up a character. -/
def takeBytes : Nat → List UInt8 → Scan Char
  | budget, bytes => do
    match (String.fromUTF8? ⟨bytes.toArray⟩).bind (·.toList.head?) with
    | some c => return c
    | none =>
      match budget with
      | 0 => failure
      | budget + 1 =>
        if ← takeText? "\\x" then
          let byte ← takeByte
          takeBytes budget (bytes ++ [byte])
        else failure

/-- Takes up to six hexadecimal digits before a closing brace. -/
def takeCodePoint : Nat → Nat → Scan Nat
  | 0, n => return n
  | digits + 1, n => do
    match (← get).head? with
    | none => failure
    | some '\x7d' => return n
    | some _ => do
      let d ← takeHex
      takeCodePoint digits (16 * n + d)

inductive Place
  | string
  | character
  | bytes
deriving DecidableEq

def takeEscape (place : Place) : Scan Char := do
  match ← takeAny with
  | '\x27' => return '\x27'
  | '"' => return '"'
  | '\\' => return '\\'
  | 'n' => return '\n'
  | 'r' => return '\r'
  | 't' => return '\t'
  | '0' => return '\x00'
  | 'x' =>
    let byte ← takeByte
    match place with
    | .bytes => return Char.ofNat byte.toNat
    | .character => takeBytes 0 [byte]
    | .string => takeBytes 3 [byte]
  | 'u' =>
    take '\x7b'
    if (← get).head? = some '\x7d' then failure
    let n ← takeCodePoint 6 0
    take '\x7d'
    if n.isValidChar then return Char.ofNat n else failure
  | _ => failure

/-- Takes the rest of a string behind its opening quote. The budget is the length of the text. -/
def takeQuoted (place : Place) : Nat → List Char → Scan (List Char)
  | 0, _ => failure
  | budget + 1, done => do
    match ← takeAny with
    | '"' => return done.reverse
    | '\\' =>
      let c ← takeEscape place
      takeQuoted place budget (c :: done)
    | c => takeQuoted place budget (c :: done)

/-- The text before the first occurrence of an ending, and the text behind it. -/
def splitEnding? (ending : List Char) : List Char → Option (List Char × List Char)
  | [] => none
  | c :: rest =>
    if ending.isPrefixOf (c :: rest) then some ([], (c :: rest).drop ending.length)
    else (splitEnding? ending rest).map fun (before, after) => (c :: before, after)

/-- Takes the rest of a raw string behind its letters. -/
def takeRaw : Scan (List Char) := fun cs =>
  let hashes := cs.takeWhile (· = '#')
  match cs.drop hashes.length with
  | '"' :: rest => splitEnding? ('"' :: hashes) rest
  | _ => none

def takeString : Scan String := fun cs =>
  match cs with
  | '"' :: rest => (takeQuoted .string cs.length [] rest).map fun (s, r) => (String.ofList s, r)
  | 'r' :: rest => (takeRaw rest).map fun (s, r) => (String.ofList s, r)
  | _ => none

def skipBytes : Scan Unit := fun cs =>
  match cs with
  | 'b' :: '"' :: rest => (takeQuoted .bytes cs.length [] rest).map ((), ·.2)
  | 'b' :: 'r' :: rest => (takeRaw rest).map ((), ·.2)
  | _ => none

def skipCharacter : Scan Unit := do
  take '\x27'
  if (← takeAny) = '\\' then
    let _ ← takeEscape .character
  take '\x27'

def skipByte : Scan Unit := do
  take 'b'
  take '\x27'
  let c ← takeAny
  if c = '\\' then
    let e ← takeEscape .bytes
    if 0x100 ≤ e.toNat then failure
  else if 0x80 ≤ c.toNat then failure
  take '\x27'

end Runboard.Ron
