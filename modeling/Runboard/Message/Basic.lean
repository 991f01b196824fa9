import Runboard.Json.Mismatch

namespace Runboard

inductive Kind
  | add
  | update
  | note
  | finish
  | problems
deriving DecidableEq, Repr

inductive Field
  | name
  | counter
  | message
  | problems
  | isFinal
deriving DecidableEq, Repr

namespace Field

def key : Field → String
  | .name => "name"
  | .counter => "counter"
  | .message => "message"
  | .problems => "problems"
  | .isFinal => "is_final"

end Field

namespace Kind

/-- The key that holds the kind of a frame. -/
def tagKey : String := "message_type"

/-- The tags that are looked for in a frame. -/
def known : List String :=
  ["progress-bar-add", "progress-bar-update", "progress-bar-message", "progress-bar-finish",
    "problem-report"]

/-- The known tag of a kind, by which logs and errors name it. -/
def label : Kind → String
  | .add => known[0]
  | .update => known[1]
  | .note => known[2]
  | .finish => known[3]
  | .problems => known[4]

def title : Kind → String
  | .add => "ProgressBarAdd"
  | .update => "ProgressBarUpdate"
  | .note => "ProgressBarMessage"
  | .finish => "ProgressBarFinish"
  | .problems => "ProblemReport"

/-- The tag that is written to a frame and read again, which is made from the title and not taken
from the known ones. -/
def tag (kind : Kind) : String := Text.hyphenated kind.title

def all : List Kind := [.add, .update, .note, .finish, .problems]

def ofTag? (tag : String) : Option Kind := all.find? fun kind => kind.tag == tag

/-- The fields of a kind, in the order in which they are written. -/
def fields : Kind → List Field
  | .add => [.name]
  | .update => [.name, .counter]
  | .note => [.name, .message]
  | .finish => [.name, .message]
  | .problems => [.problems, .isFinal]

def field? (kind : Kind) (key : String) : Option Field := kind.fields.find? fun f => f.key == key

/-- The name of a kind's record where the number of its fields is given. -/
def record (kind : Kind) : String := "Msg::" ++ kind.title

end Kind

/-- The counter of a row as its producer wrote it, such as `3` or `3/10`. -/
structure Counter where
  text : String
deriving DecidableEq, Repr, Inhabited

namespace Counter

def initial : Counter := ⟨"0"⟩

def ofNat (n : Nat) : Counter := ⟨Number.integerText n⟩

/-- The text of a number used as a counter: integers in full, floats positionally in their
shortest form, of which the larger one is taken if two are equally near. -/
def numberText : Json.Numeral → String
  | .integer n => Number.integerText n
  | .float x => (Number.shortest .up x).positional

/-- A counter is given by a text or by a number. -/
def ofJson : Json → Except Json.Mismatch Counter
  | .string s => .ok ⟨s⟩
  | .number n => .ok ⟨numberText n⟩
  | _ => .error .noCounter

end Counter

inductive Message
  /-- A row of progress starts. -/
  | add (name : String)
  /-- A row has a new counter. -/
  | update (name : String) (counter : Counter)
  /-- A row has a new comment. -/
  | note (name : String) (text : String)
  /-- A row is done; the text is its last comment. -/
  | finish (name : String) (text : String)
  /-- All problems found so far. Only the report at the end of the run is final. -/
  | problems (items : List String) (isFinal : Bool)
deriving DecidableEq, Repr

namespace Message

def kind : Message → Kind
  | .add .. => .add
  | .update .. => .update
  | .note .. => .note
  | .finish .. => .finish
  | .problems .. => .problems

def label (m : Message) : String := m.kind.label

/-- The row a message is about; a report is about none. -/
def rowName? : Message → Option String
  | .add name => some name
  | .update name _ => some name
  | .note name _ => some name
  | .finish name _ => some name
  | .problems .. => none

end Message

end Runboard
