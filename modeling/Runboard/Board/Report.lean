import Runboard.Json.Skip

namespace Runboard

structure Report where
  items : List String := []
  isFinal : Bool := false
deriving DecidableEq, Repr, Inhabited

namespace Report

/-- A new snapshot takes the place of the old one, of which nothing is kept. -/
def replace (_ : Report) (items : List String) (isFinal : Bool) : Report := ⟨items, isFinal⟩

end Report

structure Headings where
  interim : String := "Interim validation report"
  finished : String := "Validation report"
deriving DecidableEq, Repr, Inhabited

namespace Headings

def headingFor (headings : Headings) (isFinal : Bool) : String :=
  if isFinal then headings.finished else headings.interim

def text (headings : Headings) : String :=
  Json.text
    (.object [("interim", .string headings.interim), ("finished", .string headings.finished)])

open Json (Reader)

structure Slots where
  interim : Option String := none
  finished : Option String := none

/-- Headings with the standard text for those that were not given. -/
def ofSlots (slots : Slots) : Headings :=
  { interim := slots.interim.getD ({} : Headings).interim
    finished := slots.finished.getD ({} : Headings).finished }

def duplicate (key : String) (cs : List Char) : Json.Fault :=
  .before (.mismatch (.duplicateField key)) (Json.leaveObject cs)

/-- One member; keys other than the two headings are passed over. -/
def readMember (slots : Slots) (key : String) : Reader Slots := fun cs => do
  if key = "interim" then
    if slots.interim.isSome then .error (duplicate key cs)
    else
      let (s, rest) ← Json.stringValue .string (← Json.readColon cs)
      return ({ slots with interim := some s }, rest)
  else if key = "finished" then
    if slots.finished.isSome then .error (duplicate key cs)
    else
      let (s, rest) ← Json.stringValue .string (← Json.readColon cs)
      return ({ slots with finished := some s }, rest)
  else return (slots, ← Json.skipValue (← Json.readColon cs))

/-- Headings by position; any of them may be left out at the end. -/
def readArray : Reader Headings := fun cs => do
  match ← Json.nextElement true cs with
  | none => return ({}, ← Json.closeArray cs)
  | some first =>
    let (interim, rest) ← Json.stringValue .string first
    match ← Json.nextElement false rest with
    | none => return ({ interim }, ← Json.closeArray rest)
    | some second =>
      let (finished, rest) ← Json.stringValue .string second
      return ({ interim, finished }, ← Json.closeArray rest)

/-- Headings as an object or by position in an array. -/
def read : Reader Headings := fun cs =>
  match Json.skipSpaces cs with
  | '\x7b' :: rest => do
    let (slots, rest) ← Json.readObject readMember {} rest
    return (ofSlots slots, rest)
  | '[' :: rest => readArray rest
  | cs => do
    let (found, rest) ← Json.readScalar cs
    .error (.before (.mismatch (.invalidType found .headings)) rest)

def ofText (text : String) : Except Json.ReadError Headings := Json.readAll read text.toList

end Headings

end Runboard
