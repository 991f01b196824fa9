import Runboard.Display
import Runboard.Feed.Run

namespace Runboard

/-- A monitor: its board, where it writes, and how far it has got. -/
structure Monitor where
  headings : Headings := {}
  quiet : Bool := false
  board : Board := {}
  output : Output := {}
  started : Bool := false
  /-- Blocks written in full. -/
  blocks : Nat := 0
deriving Repr, Inhabited

inductive SessionError
  | output (e : OutputError)
  | run (url : String) (e : RunError)
deriving Repr

namespace SessionError

/-- The wording of an error, followed by those of its causes. -/
def chain : SessionError → List String
  | .output e => [e.message]
  | .run url e => ["Run for " ++ url ++ " failed", e.message]

end SessionError

/-- A monitor after it did something, with the result, the log and the alerts raised. -/
structure Done (α : Type) where
  result : α
  monitor : Monitor
  log : List Log.Entry := []
  alerts : List String := []

namespace Monitor

def logEntry (level : Log.Level) (text : String) : Log.Entry := ⟨level, .session, text⟩

/-- Sets up the board. Only the first call does anything. -/
def start (m : Monitor) : Done Bool :=
  if m.started then
    { result := false, monitor := m, log := [logEntry .debug "Monitor already initialized"] }
  else
    { result := true
      monitor := { m with started := true, board := .empty m.headings }
      log := [logEntry .info "Monitor initialized"] }

def blockLines (m : Monitor) : List String :=
  let lines := Display.viewLines m.board.view
  if m.blocks = 0 then lines else Display.separator :: lines

/-- Writes a block. It counts only if every line of it was taken and the flush was, too. -/
def writeBlock (m : Monitor) : Except OutputError Unit × Monitor :=
  match m.output.write m.blockLines with
  | (output, .ok ()) => (.ok (), { m with output, blocks := m.blocks + 1 })
  | (output, .error e) => (.error e, { m with output })

def alertLog (alerts : List String) : List Log.Entry :=
  alerts.map fun text => ⟨.info, .alerts, "Alerting operator: " ++ text⟩

/-- Writes the board if it has changed. A quiet monitor only notes that it has seen the change. -/
def draw (m : Monitor) : Except OutputError Unit × Monitor :=
  let (changed, board) := m.board.takeDirty
  let m := { m with board }
  if changed && !m.quiet then m.writeBlock else (.ok (), m)

def showFrame (m : Monitor) (frame : Json) : Done (Except OutputError Unit) :=
  let step := m.board.dispatch frame
  let (result, m) := { m with board := step.board }.draw
  { result, monitor := m, log := step.log ++ alertLog step.alerts, alerts := step.alerts }

/-- Shows frames until there are no more or one cannot be shown. -/
def showFrames (m : Monitor) : List Json → Done (Except OutputError Unit)
  | [] => { result := .ok (), monitor := m }
  | frame :: rest =>
    let first := m.showFrame frame
    match first.result with
    | .error e => { first with result := .error e }
    | .ok () =>
      let later := first.monitor.showFrames rest
      { later with log := first.log ++ later.log, alerts := first.alerts ++ later.alerts }

/-- Writes the last block of a session. It is due if the session was quiet or nothing has ever
been written. -/
def drawLast (m : Monitor) : Except OutputError Unit × Monitor :=
  if m.quiet || m.blocks = 0 then m.writeBlock else (.ok (), m)

/-- The end of a session whose frames have been shown: the last block, if one is due, and then
the outcome of the run. -/
def conclude (m : Monitor) (url : String) (outcome : Except RunError Unit) :
    Done (Except SessionError View) :=
  let (written, m) := m.drawLast
  match written, outcome with
  | .error e, _ => { result := .error (.output e), monitor := m }
  | .ok (), .error e => { result := .error (.run url e), monitor := m }
  | .ok (), .ok () =>
    { result := .ok m.board.view
      monitor := m
      log := [logEntry .info ("Run for " ++ url ++ " stopped reporting")] }

/-- Runs a task and shows its frames until it stops reporting. An output that fails ends the
session, and its error comes before that of the run. -/
def session (m : Monitor) (task : Task) (url : String) : Done (Except SessionError View) :=
  let started := m.start
  let run := task.run url {}
  let shown := started.monitor.showFrames run.channel.queue
  let log := started.log ++ run.log ++ shown.log
  match shown.result with
  | .error e =>
    { result := .error (.output e), monitor := shown.monitor, log, alerts := shown.alerts }
  | .ok () =>
    let last := shown.monitor.conclude url run.outcome
    { last with log := log ++ last.log, alerts := shown.alerts ++ last.alerts }

end Monitor

end Runboard
