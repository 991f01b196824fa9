import Runboard.Number.Shortest

namespace Runboard

/-- Entries by key, each key at most once and in increasing order. -/
abbrev Keyed (α : Type) := List (String × α)

namespace Keyed

variable {α : Type}

/-- Sets the entry of a key, replacing the one that is there. -/
def insert (key : String) (value : α) : Keyed α → Keyed α
  | [] => [(key, value)]
  | (k, v) :: rest =>
    if key < k then (key, value) :: (k, v) :: rest
    else if key = k then (key, value) :: rest
    else (k, v) :: insert key value rest

def get? (key : String) : Keyed α → Option α
  | [] => none
  | (k, v) :: rest => if k = key then some v else get? key rest

def erase (key : String) : Keyed α → Keyed α
  | [] => []
  | (k, v) :: rest => if k = key then rest else (k, v) :: erase key rest

/-- A map from pairs in any order; of a repeated key the last entry stays. -/
def ofPairs (pairs : List (String × α)) : Keyed α :=
  pairs.foldl (fun map pair => map.insert pair.1 pair.2) []

end Keyed

/-- A JSON number. Integers that fit neither a signed nor an unsigned 64-bit word are floats. -/
inductive Json.Numeral
  | integer (n : Int)
  | float (x : Number.Binary)
deriving DecidableEq, Repr, Inhabited

inductive Json
  | null
  | bool (b : Bool)
  | number (n : Json.Numeral)
  | string (s : String)
  | array (items : List Json)
  | object (members : List (String × Json))
deriving Repr, Inhabited

namespace Json

def string? : Json → Option String
  | .string s => some s
  | _ => none

/-- Deepest nesting of arrays and objects that is read. -/
def maxDepth : Nat := 127

end Json

end Runboard

namespace Runboard.Json

def hexPair (n : Nat) : List Char :=
  [Nat.digitChar (n / 16 % 16), Nat.digitChar (n % 16)]

def escapedChar (c : Char) : List Char :=
  if c = '"' then ['\\', '"']
  else if c = '\\' then ['\\', '\\']
  else if c = '\x08' then ['\\', 'b']
  else if c = '\x0c' then ['\\', 'f']
  else if c = '\n' then ['\\', 'n']
  else if c = '\r' then ['\\', 'r']
  else if c = '\t' then ['\\', 't']
  else if c.toNat < 0x20 then ['\\', 'u', '0', '0'] ++ hexPair c.toNat
  else [c]

def stringChars (s : String) : List Char :=
  '"' :: (s.toList.flatMap escapedChar ++ ['"'])

/-- A floating-point number in its shortest form; equally near decimals go to the even digit. -/
def floatText (x : Number.Binary) : String := (Number.shortest .even x).scientific

namespace Numeral

def text : Numeral → String
  | .integer n => Number.integerText n
  | .float x => floatText x

end Numeral

mutual

def chars : Json → List Char
  | .null => "null".toList
  | .bool true => "true".toList
  | .bool false => "false".toList
  | .number n => n.text.toList
  | .string s => stringChars s
  | .array items => '[' :: itemChars items
  | .object members => '\x7b' :: memberChars members

def itemChars : List Json → List Char
  | [] => [']']
  | [item] => chars item ++ [']']
  | item :: next :: rest => chars item ++ ',' :: itemChars (next :: rest)

def memberChars : List (String × Json) → List Char
  | [] => ['\x7d']
  | [(key, value)] => stringChars key ++ ':' :: (chars value ++ ['\x7d'])
  | (key, value) :: next :: rest =>
    stringChars key ++ ':' :: (chars value ++ ',' :: memberChars (next :: rest))

end

def text (value : Json) : String := String.ofList value.chars

end Runboard.Json
