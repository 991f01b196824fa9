import Runboard.Json.Parser
import Runboard.Message.Frame

namespace Runboard.Message

open Json (Reader Fault Mismatch)

def readKind : Reader Kind := fun cs => do
  let (tag, rest) ← Json.stringValue .kind cs
  match Kind.ofTag? tag with
  | some kind => return (kind, rest)
  | none => .error (.before (.mismatch (.unknownKind tag (Kind.all.map Kind.tag))) rest)

def readPart : Reader Json := Json.value (Json.maxDepth - 1)

/-- The tag, once it has been read, and the other members in the order of the text. -/
structure Parts where
  kind : Option Kind := none
  members : List (String × Json) := []

def readMember (parts : Parts) (key : String) : Reader Parts := fun cs => do
  if key = Kind.tagKey then
    if parts.kind.isSome then
      .error (.before (.mismatch (.duplicateField Kind.tagKey)) (Json.leaveObject cs))
    else
      let (kind, rest) ← readKind (← Json.readColon cs)
      return ({ parts with kind := some kind }, rest)
  else
    let (v, rest) ← readPart (← Json.readColon cs)
    return ({ parts with members := parts.members ++ [(key, v)] }, rest)

/-- A message written as an object, after its opening brace. -/
def readObject : Reader Message := fun cs => do
  let (parts, rest) ← Json.foldMembers readMember (cs.length + 1) true {} cs
  match parts.kind with
  | none => .error (.before (.mismatch (.missingField Kind.tagKey)) (Json.leaveObject rest))
  | some kind =>
    let rest ← Json.closeObject rest
    let m ← (ofMembers kind parts.members).mapError Fault.unplaced
    return (m, rest)

/-- The fields of a kind by position, of which `expected` there should be. -/
def ofElements (kind : Kind) : Slots → (index : Nat) → List Field → List Json →
    Except Mismatch Message
  | slots, _, [], [] => slots.toMessage kind
  | _, index, [], surplus => .error (.invalidLength (index + surplus.length) (.atMost index))
  | _, index, _ :: _, [] => .error (.invalidLength index (.fields kind.record kind.fields.length))
  | slots, index, field :: fields, v :: rest => do
    ofElements kind (← slots.read field v) (index + 1) fields rest

/-- A message written as an array, after its opening bracket. -/
def readArray : Reader Message := fun cs => do
  match ← Json.nextElement true cs with
  | none => .error (.before (.mismatch (.missingField Kind.tagKey)) (Json.leaveArray cs))
  | some element =>
    let (kind, rest) ← readKind element
    let (items, rest) ← Json.foldElements (fun items cs => do
      let (item, rest) ← readPart cs
      return (items ++ [item], rest)) (rest.length + 1) false [] rest
    let rest ← Json.closeArray rest
    let m ← (ofElements kind {} 0 kind.fields items).mapError Fault.unplaced
    return (m, rest)

def read : Reader Message := fun cs =>
  match Json.skipSpaces cs with
  | '\x7b' :: rest => readObject rest
  | '[' :: rest => readArray rest
  | cs => do
    let (found, rest) ← Json.readScalar cs
    .error (.before (.mismatch (.invalidType found .message)) rest)

def ofText (text : String) : Except Json.ReadError Message := Json.readAll read text.toList

end Runboard.Message

namespace Runboard.Counter

def read : Json.Reader Counter := fun cs => do
  let (v, rest) ← Json.value Json.maxDepth cs
  return (← (ofJson v).mapError Json.Fault.unplaced, rest)

def ofText (text : String) : Except Json.ReadError Counter := Json.readAll read text.toList

end Runboard.Counter
