import Runboard.Yaml.Document
import Runboard.Yaml.Resolve

namespace Runboard.Catalog

open Yaml (Document Part)

structure Endpoint where
  title : String
  url : String
deriving DecidableEq, Repr, Inhabited

inductive Path
  | root
  | entry (index : Nat)
  | field (index : Nat) (key : String)
deriving DecidableEq, Repr

/-- The text of a place in front of a message; the whole catalog is not named. -/
def Path.lead : Path → String
  | .root => ""
  | .entry index => ".[" ++ toString index ++ "]: "
  | .field index key => ".[" ++ toString index ++ "]." ++ key ++ ": "

inductive Fault
  /-- The text is no YAML, or holds more than one document. -/
  | malformed
  /-- A scalar does not have the meaning that its tag asks for. -/
  | invalidValue
  | invalidType (path : Path) (found expected : String)
  | missingField (path : Path) (name : String)
  | duplicateField (path : Path) (name : String)
deriving DecidableEq, Repr

/-- The wording of a fault of the entries. Faults of the text have no wording of their own. -/
def Fault.message? : Fault → Option String
  | .malformed => none
  | .invalidValue => none
  | .invalidType path found expected =>
    some (path.lead ++ "invalid type: " ++ found ++ ", expected " ++ expected)
  | .missingField path name => some (path.lead ++ "missing field `" ++ name ++ "`")
  | .duplicateField path name => some (path.lead ++ "duplicate field `" ++ name ++ "`")

/-- The part at a place and the place behind it. The parts end early if the text is at fault. -/
def nextPart (d : Document) (place : Nat) : Except Fault (Part × Nat) :=
  match d.parts[place]? with
  | some part => .ok (part, place + 1)
  | none => .error .malformed

def follow (d : Document) : Part → Except Fault (Part × Option Nat)
  | .alias target => do
    let (part, after) ← nextPart d target
    return (part, some after)
  | part => .ok (part, none)

def mismatch (path : Path) (expected : String) : Part → Fault
  | .scalar s =>
    match s.meaning? with
    | some m => .invalidType path m.describe expected
    | none => .invalidValue
  | .sequenceStart => .invalidType path "sequence" expected
  | .mappingStart => .invalidType path "map" expected
  | .void => .invalidType path "unit value" expected
  | _ => .malformed

/-- Nothing at all also stands for an empty collection. -/
def isEmptyNode : Part → Bool
  | .void => true
  | .scalar s => s.text.isEmpty && s.style == .plain
  | _ => false

def readText (d : Document) (path : Path) (expected : String) (place : Nat) :
    Except Fault (String × Nat) := do
  let (part, after) ← nextPart d place
  match ← follow d part with
  | (.scalar s, _) => return (s.text, after)
  | (part, _) => .error (mismatch path expected part)

/-- The place behind a node; `depth` is the number of open collections. -/
def skipNode (d : Document) : (fuel depth place : Nat) → Except Fault Nat
  | 0, _, _ => .error .malformed
  | fuel + 1, depth, place => do
    let (part, place) ← nextPart d place
    let depth := match part with
      | .sequenceStart => depth + 1
      | .mappingStart => depth + 1
      | .sequenceEnd => depth - 1
      | .mappingEnd => depth - 1
      | _ => depth
    if depth = 0 then return place else skipNode d fuel depth place

structure Slots where
  title : Option String := none
  url : Option String := none

def Slots.toEndpoint (slots : Slots) (path : Path) : Except Fault Endpoint :=
  match slots.title, slots.url with
  | none, _ => .error (.missingField path "title")
  | _, none => .error (.missingField path "url")
  | some title, some url => .ok { title, url }

/-- The fields of an entry from a place inside it to its end. -/
def readFields (d : Document) (index : Nat) : (fuel : Nat) → Slots → (place : Nat) →
    Except Fault (Slots × Nat)
  | 0, _, _ => .error .malformed
  | fuel + 1, slots, place => do
    match ← nextPart d place with
    | (.mappingEnd, after) => return (slots, after)
    | _ =>
      let (key, place) ← readText d (.entry index) "field identifier" place
      if key == "title" then
        if slots.title.isSome then .error (.duplicateField (.entry index) key)
        let (s, place) ← readText d (.field index key) "a string" place
        readFields d index fuel { slots with title := some s } place
      else if key == "url" then
        if slots.url.isSome then .error (.duplicateField (.entry index) key)
        let (s, place) ← readText d (.field index key) "a string" place
        readFields d index fuel { slots with url := some s } place
      else readFields d index fuel slots (← skipNode d (d.parts.size + 1) 0 place)

def readEndpoint (d : Document) (index place : Nat) : Except Fault (Endpoint × Nat) := do
  let (part, after) ← nextPart d place
  match ← follow d part with
  | (.mappingStart, inside) =>
    let (slots, last) ← readFields d index (d.parts.size + 1) {} (inside.getD after)
    return (← slots.toEndpoint (.entry index), if inside.isSome then after else last)
  | (part, _) =>
    if isEmptyNode part then return (← Slots.toEndpoint {} (.entry index), after)
    else .error (mismatch (.entry index) "struct Endpoint" part)

/-- Entries from a place inside the list to its end. -/
def readEndpoints (d : Document) : (fuel index place : Nat) → Except Fault (List Endpoint)
  | 0, _, _ => .error .malformed
  | fuel + 1, index, place => do
    match ← nextPart d place with
    | (.sequenceEnd, _) => return []
    | _ =>
      let (endpoint, place) ← readEndpoint d index place
      return endpoint :: (← readEndpoints d fuel (index + 1) place)

def ofDocument (d : Document) : Except Fault (List Endpoint) := do
  let (part, place) ← nextPart d 0
  let endpoints ←
    if part = .sequenceStart then readEndpoints d (d.parts.size + 1) 0 place
    else if isEmptyNode part then pure []
    else .error (mismatch .root "a sequence" part)
  if d.broken || d.followed then .error .malformed else return endpoints

/-- Bytes that count as nothing when there are no others. -/
def isEmptyByte (b : UInt8) : Bool := b == 9 || b == 10 || b == 12 || b == 13 || b == 32

/-- The entries of a catalog. Bytes that are no text, and characters that YAML does not allow,
are found before anything else. -/
def ofBytes (bytes : ByteArray) : Except Fault (List Endpoint) :=
  if bytes.toList.all isEmptyByte then .ok []
  else
    match String.fromUTF8? bytes with
    | some text =>
      let text := text.toList
      if text.all Yaml.isAllowed then ofDocument (.ofText text) else .error .malformed
    | none => .error .malformed

end Runboard.Catalog
