import Runboard.Yaml.Event

namespace Runboard.Yaml

inductive Part
  /-- Stands for a whole document without content. -/
  | void
  | scalar (scalar : Scalar)
  /-- The same as the node that starts at this part. -/
  | alias (target : Nat)
  | sequenceStart
  | sequenceEnd
  | mappingStart
  | mappingEnd
deriving DecidableEq, Repr, Inhabited

/-- A document, and whether all of it and of the text behind it is in order. -/
structure Document where
  parts : Array Part
  /-- The text is at fault after the last part. -/
  broken : Bool
  /-- The document is followed by another one, or by a fault. -/
  followed : Bool
deriving Repr, Inhabited

/-- Names of anchors with their numbers, and the part of each number. A name that is given again
gets a number of its own, which is the count of names so far. -/
structure Anchors where
  numbers : List (String × Nat) := []
  places : List (Nat × Nat) := []
deriving Repr, Inhabited

namespace Anchors

def note (a : Anchors) (place : Nat) : Option String → Anchors
  | none => a
  | some name =>
    let number := a.numbers.length
    { numbers := (name, number) :: a.numbers.filter (·.1 != name)
      places := (number, place) :: a.places }

def number? (a : Anchors) (name : String) : Option Nat :=
  (a.numbers.find? (·.1 == name)).map Prod.snd

/-- The part of a number, of which the last one counts. -/
def place? (a : Anchors) (number : Nat) : Option Nat :=
  (a.places.find? (·.1 == number)).map Prod.snd

end Anchors

namespace Document

/-- The part of an event inside a document; an alias still has the number of its anchor. -/
def partOf (a : Anchors) : Event → Option Part
  | .alias name => (a.number? name).map .alias
  | .scalar _ s => some (.scalar s)
  | .sequenceStart _ => some .sequenceStart
  | .sequenceEnd => some .sequenceEnd
  | .mappingStart _ => some .mappingStart
  | .mappingEnd => some .mappingEnd
  | _ => none

def anchorOf : Event → Option String
  | .scalar anchor _ => anchor
  | .sequenceStart anchor => anchor
  | .mappingStart anchor => anchor
  | _ => none

def link (a : Anchors) (parts : Array Part) : Array Part :=
  parts.map fun part => match part with
    | .alias number => .alias ((a.place? number).getD parts.size)
    | part => part

/-- Something other than the end of the text comes after the first document. -/
def isFollowed (g : Grammar) : Bool :=
  match g.next with
  | some (.streamEnd, _) => false
  | _ => true

/-- Collects the parts of the first document; `fuel` bounds the number of events. -/
def collect : (fuel : Nat) → Anchors → Array Part → Grammar → Document
  | 0, a, parts, _ => ⟨link a parts, true, true⟩
  | fuel + 1, a, parts, g =>
    match g.next with
    | none => ⟨link a parts, true, true⟩
    | some (.streamStart, g) => collect fuel a parts g
    | some (.documentStart, g) => collect fuel a parts g
    | some (.documentEnd, g) => ⟨link a parts, false, isFollowed g⟩
    | some (.streamEnd, _) =>
      ⟨if parts.isEmpty then #[.void] else link a parts, false, false⟩
    | some (event, g) =>
      match partOf a event with
      | none => ⟨link a parts, true, true⟩
      | some part => collect fuel (a.note parts.size (anchorOf event)) (parts.push part) g

/-- The first document of a text. Of every three events at least one takes a token, and of
tokens there are at most four for each character. -/
def ofText (text : List Char) : Document := collect (16 * (text.length + 4)) {} #[] (.ofText text)

end Document

end Runboard.Yaml
