import Runboard.Catalog.Load
import Runboard.Command.Basic
import Runboard.File
import Runboard.Session
import Runboard.Settings

namespace Runboard

inductive ProgramError
  | scriptUnreadable (path : String) (e : FileError)
  | scriptInvalid (path : String) (e : ScriptError)
  | session (e : SessionError)
  | catalog (e : Catalog.LoadError)
  | output (e : OutputError)
deriving Repr

namespace ProgramError

def catalogContext : String := "Failed to load the endpoint list"

/-- The wording of an error, followed by those of its causes. -/
def chain : ProgramError → List String
  | .scriptUnreadable path e =>
    ["Failed to read message script " ++ Text.quotedPath path, e.message]
  | .scriptInvalid path e =>
    ["Invalid message script " ++ Text.quotedPath path, e.message, e.reason.message]
  | .session e => e.chain
  | .catalog e => catalogContext :: e.chain
  | .output e => [e.message]

def lines (e : ProgramError) : List String :=
  match e.chain with
  | [] => []
  | first :: causes => ("monitor_app failed: " ++ first) :: causes.map ("  Caused by: " ++ ·)

end ProgramError

structure Outcome where
  result : Except ProgramError Unit
  output : Output
  /-- What is said about a log file that could not be created. -/
  warning : Option String
  alerts : List String
  /-- The log, as far as it is kept. -/
  log : List Log.Entry

namespace Outcome

/-- What the operator sees besides the output, in lines: the warning, and then the alerts. -/
def notices (o : Outcome) : List String := o.warning.toList ++ o.alerts.map Display.alertLine

def errorLines (o : Outcome) : List String :=
  match o.result with
  | .ok () => []
  | .error e => e.lines

def exitCode (o : Outcome) : UInt32 :=
  match o.result with
  | .ok () => 0
  | .error _ => 1

end Outcome

namespace Program

def logPath : String := "./monitor.log"

def loadScript (files : Files) (path : String) : Except ProgramError Script := do
  let text ← (files.readText path).mapError (.scriptUnreadable path)
  (Script.parse text).mapError (.scriptInvalid path)

def replay (files : Files) (monitor : Monitor) (script url : String) :
    Done (Except ProgramError Unit) :=
  match loadScript files script with
  | .error e => { result := .error e, monitor }
  | .ok recorded =>
    let done := monitor.session (.replay recorded.frames) url
    { done with result := (done.result.mapError .session).map fun _ => () }

/-- Lists the endpoints of the catalog. If it cannot be loaded, nothing is written. -/
def listEndpoints (transport : Catalog.Transport) (monitor : Monitor) (url : String) :
    Done (Except ProgramError Unit) :=
  let loaded := Catalog.load transport url
  match loaded.result with
  | .error e => { result := .error (.catalog e), monitor, log := loaded.log }
  | .ok endpoints =>
    let (output, result) :=
      monitor.output.write (Display.optionLines (Catalog.options endpoints))
    { result := result.mapError .output, monitor := { monitor with output }, log := loaded.log }

def perform (files : Files) (transport : Catalog.Transport) (settings : Settings)
    (monitor : Monitor) : Command → Done (Except ProgramError Unit)
  | .run script url _ => replay files monitor script url
  | .endpoints url => listEndpoints transport monitor (url.getD settings.endpointsUrl)

def pause (files : Files) (options : Options) : Nat :=
  match options.command with
  | .run _ _ (some delay) => delay
  | _ => (Settings.load files options.config).settings.replayDelay

/-- Runs the program. A log that can only go to a file is lost without one. -/
def run (files : Files) (transport : Catalog.Transport) (options : Options) : Outcome :=
  let loaded := Settings.load files options.config
  let started :=
    Monitor.start { headings := loaded.settings.headings, quiet := options.quiet }
  let done := perform files transport loaded.settings started.monitor options.command
  let log := Log.filter Log.Threshold.program (loaded.log ++ started.log ++ done.log)
  let (warning, hasFile) :=
    match options.log.usesFile, files.logFile with
    | true, .error e =>
      (some ("Warning: Could not create log file at " ++ Text.quotedPath logPath ++ ": " ++
        e.message), false)
    | usesFile, _ => (none, usesFile)
  { result := done.result
    output := done.monitor.output
    warning
    alerts := done.alerts
    log := if hasFile || options.log.usesTerminal then log else [] }

/-- Runs the program in a folder, which is then left with the log file. -/
def runIn (directory : Directory) (transport : Catalog.Transport) (options : Options) :
    Outcome × Directory :=
  let created :=
    if options.log.usesFile then directory.create logPath else .ok directory
  let after := created.toOption.getD directory
  (run { read := after.read, logFile := created.map fun _ => () } transport options, after)

end Program

end Runboard
