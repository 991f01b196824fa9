import Runboard.Message.Basic

namespace Runboard

structure Slots where
  name : Option String := none
  counter : Option Counter := none
  message : Option String := none
  problems : Option (List String) := none
  isFinal : Option Bool := none
deriving DecidableEq, Repr, Inhabited

namespace Slots

def readText : Json → Except Json.Mismatch String
  | .string s => .ok s
  | v => .error (.invalidType v .string)

def readBool : Json → Except Json.Mismatch Bool
  | .bool b => .ok b
  | v => .error (.invalidType v .boolean)

/-- A list of texts. The first element that is no text is the one complained about. -/
def readTexts : Json → Except Json.Mismatch (List String)
  | .array items => items.mapM readText
  | v => .error (.invalidType v .sequence)

def has (slots : Slots) : Field → Bool
  | .name => slots.name.isSome
  | .counter => slots.counter.isSome
  | .message => slots.message.isSome
  | .problems => slots.problems.isSome
  | .isFinal => slots.isFinal.isSome

def read (slots : Slots) (field : Field) (v : Json) : Except Json.Mismatch Slots :=
  match field with
  | .name => do return { slots with name := some (← readText v) }
  | .counter => do return { slots with counter := some (← Counter.ofJson v) }
  | .message => do return { slots with message := some (← readText v) }
  | .problems => do return { slots with problems := some (← readTexts v) }
  | .isFinal => do return { slots with isFinal := some (← readBool v) }

/-- Reads a member of a frame. Keys that the kind does not have are ignored, and none of its own
may come twice. -/
def readMember (kind : Kind) (slots : Slots) (member : String × Json) :
    Except Json.Mismatch Slots :=
  match kind.field? member.1 with
  | none => .ok slots
  | some field =>
    if slots.has field then .error (.duplicateField field.key) else slots.read field member.2

def require {α : Type} (field : Field) : Option α → Except Json.Mismatch α
  | some a => .ok a
  | none => .error (.missingField field.key)

/-- The message of a kind. Of several missing fields the first is the one complained about. -/
def toMessage (slots : Slots) : Kind → Except Json.Mismatch Message
  | .add => do
    return .add (← require .name slots.name)
  | .update => do
    return .update (← require .name slots.name) (← require .counter slots.counter)
  | .note => do
    return .note (← require .name slots.name) (← require .message slots.message)
  | .finish => do
    return .finish (← require .name slots.name) (← require .message slots.message)
  | .problems => do
    return .problems (← require .problems slots.problems) (← require .isFinal slots.isFinal)

end Slots

inductive DecodeError
  | notAnObject (frame : Json)
  | unknownKind (tag : Option String) (frame : Json)
  | malformed (label : String) (reason : Json.Mismatch)
deriving Repr

namespace DecodeError

def message : DecodeError → String
  | .notAnObject frame => "frame is not a JSON object: " ++ frame.text
  | .unknownKind tag frame =>
    let tag := match tag with
      | some tag => "Some(" ++ Text.quoted tag ++ ")"
      | none => "None"
    "unknown message type " ++ tag ++ " in frame " ++ frame.text
  | .malformed label reason => "malformed " ++ label ++ " message: " ++ reason.message

/-- The frame was not recognized at all, which points at a producer with another schema. -/
def isUnrecognized : DecodeError → Bool
  | .notAnObject _ => true
  | .unknownKind .. => true
  | .malformed .. => false

def frameText? : DecodeError → Option String
  | .notAnObject frame => some frame.text
  | .unknownKind _ frame => some frame.text
  | .malformed .. => none

end DecodeError

namespace Message

/-- The tag and fields of a message in the order in which they are written. -/
def members : Message → List (String × Json)
  | .add name => [(Kind.tagKey, .string Kind.add.tag), (Field.name.key, .string name)]
  | .update name counter =>
    [(Kind.tagKey, .string Kind.update.tag), (Field.name.key, .string name),
      (Field.counter.key, .string counter.text)]
  | .note name text =>
    [(Kind.tagKey, .string Kind.note.tag), (Field.name.key, .string name),
      (Field.message.key, .string text)]
  | .finish name text =>
    [(Kind.tagKey, .string Kind.finish.tag), (Field.name.key, .string name),
      (Field.message.key, .string text)]
  | .problems items isFinal =>
    [(Kind.tagKey, .string Kind.problems.tag),
      (Field.problems.key, .array (items.map Json.string)), (Field.isFinal.key, .bool isFinal)]

/-- The text of a message, tag first. -/
def text (m : Message) : String := (Json.object m.members).text

def toFrame (m : Message) : Json := .object (Keyed.ofPairs m.members)

/-- The message of a kind in the members of a frame, taken in order. -/
def ofMembers (kind : Kind) (members : List (String × Json)) : Except Json.Mismatch Message := do
  let slots ← members.foldlM (Slots.readMember kind) {}
  slots.toMessage kind

/-- The message in the members of a frame with a tag, which has to be the tag of some kind. -/
def ofTagged (tag : String) (members : List (String × Json)) : Except Json.Mismatch Message :=
  match Kind.ofTag? tag with
  | some kind => ofMembers kind members
  | none => .error (.unknownKind tag (Kind.all.map Kind.tag))

/-- The message of a frame. The tag is looked up among the known ones before anything is read. -/
def ofFrame (frame : Json) : Except DecodeError Message :=
  match frame with
  | .object members =>
    let tag := (Keyed.get? Kind.tagKey members).bind Json.string?
    match tag.bind fun tag => Kind.known.find? (· == tag) with
    | some label => (ofTagged label members).mapError (.malformed label)
    | none => .error (.unknownKind tag frame)
  | _ => .error (.notAnObject frame)

end Message

end Runboard
