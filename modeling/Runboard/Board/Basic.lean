import Runboard.Board.Report
import Runboard.Json.Basic
import Runboard.Message.Basic

namespace Runboard

inductive Indicator
  | spinner
  | done
deriving DecidableEq, Repr, Inhabited

structure Row where
  name : String
  counter : Counter
  message : String
  indicator : Indicator
deriving DecidableEq, Repr, Inhabited

namespace Row

def create (name : String) : Row := ⟨name, .initial, "", .spinner⟩

def setCounter (row : Row) (counter : Counter) : Row := { row with counter }

def setMessage (row : Row) (message : String) : Row := { row with message }

/-- The row with its last comment, and done. -/
def finish (row : Row) (message : String) : Row := { row with message, indicator := .done }

def isFinished (row : Row) : Bool := row.indicator = .done

end Row

/-- Everything the monitor shows. -/
structure Board where
  /-- All rows in the order in which they were added. -/
  rows : List Row := []
  /-- The index of the row each name stands for. -/
  active : Keyed Nat := []
  report : Option Report := none
  headings : Headings := {}
  /-- Something has changed since the flag was last taken. -/
  dirty : Bool := false
deriving DecidableEq, Repr, Inhabited

/-- A message about a name that stands for no row. -/
structure UnknownRow where
  kind : Kind
  name : String
deriving DecidableEq, Repr

namespace UnknownRow

def message (e : UnknownRow) : String :=
  e.kind.label ++ " for unknown progress entry " ++ Text.quoted e.name

end UnknownRow

namespace Board

def empty (headings : Headings) : Board := { headings }

/-- The row a name stands for. -/
def row? (b : Board) (name : String) : Option Row := (b.active.get? name).bind (b.rows[·]?)

def isActive (b : Board) (name : String) : Bool := (b.active.get? name).isSome

/-- The names that stand for rows, in the order of their rows. -/
def activeNames (b : Board) : List String :=
  let indices := (b.active.map Prod.snd).mergeSort (· ≤ ·)
  indices.filterMap fun i => b.rows[i]?.map Row.name

def addRow (b : Board) (name : String) : Board :=
  { b with
    rows := b.rows ++ [Row.create name]
    active := b.active.insert name b.rows.length
    dirty := true }

def modifyRow (b : Board) (kind : Kind) (name : String) (change : Row → Row) :
    Except UnknownRow Board :=
  match b.active.get? name with
  | none => .error ⟨kind, name⟩
  | some i => .ok { b with rows := b.rows.modify i change, dirty := true }

/-- A name no longer stands for a row. -/
def release (b : Board) (name : String) : Board := { b with active := b.active.erase name }

def setReport (b : Board) (items : List String) (isFinal : Bool) : Board :=
  { b with report := some ((b.report.getD {}).replace items isFinal), dirty := true }

/-- Whether something has changed since the last call. -/
def takeDirty (b : Board) : Bool × Board := (b.dirty, { b with dirty := false })

/-- Applies a message. Only a message about a name that stands for no row is refused. -/
def apply (b : Board) (m : Message) : Except UnknownRow Board :=
  match m with
  | .add name => .ok (b.addRow name)
  | .update name counter => b.modifyRow m.kind name (·.setCounter counter)
  | .note name text => b.modifyRow m.kind name (·.setMessage text)
  | .finish name text => do
    let b ← b.modifyRow m.kind name (·.finish text)
    return b.release name
  | .problems items isFinal => .ok (b.setReport items isFinal)

end Board


/-- A row with the mark whether its name still stands for it. -/
structure RowView where
  name : String
  counter : String
  message : String
  indicator : Indicator
  active : Bool
deriving DecidableEq, Repr, Inhabited

structure ReportView where
  heading : String
  problems : List String
  isFinal : Bool
deriving DecidableEq, Repr, Inhabited

/-- The rows, the number of names that stand for one, and the report. -/
structure View where
  rows : List RowView := []
  activeCount : Nat := 0
  report : Option ReportView := none
  dirty : Bool := false
deriving DecidableEq, Repr, Inhabited

namespace Board

def viewRow (b : Board) (row : Row) (index : Nat) : RowView :=
  { name := row.name
    counter := row.counter.text
    message := row.message
    indicator := row.indicator
    active := b.active.get? row.name = some index }

def viewReport (b : Board) (report : Report) : ReportView :=
  { heading := b.headings.headingFor report.isFinal
    problems := report.items
    isFinal := report.isFinal }

def view (b : Board) : View :=
  { rows := b.rows.zipIdx.map fun (row, index) => b.viewRow row index
    activeCount := b.active.length
    report := b.report.map b.viewReport
    dirty := b.dirty }

end Board

end Runboard
