import Runboard.Command.Basic
import Runboard.Command.Parser
import Runboard.Program

namespace Runboard.Main

def fileError : IO.Error → FileError
  | .noFileOrDirectory .. => .missing
  | .inappropriateType _ code _ => if code = 21 then .isFolder else .notFolder
  | e => .system (toString e)

def readFile (path : String) : IO (Except FileError ByteArray) := do
  return (← (IO.FS.readBinFile path).toBaseIO).mapError fileError

def createLog : IO (Except FileError Unit) := do
  return (← (IO.FS.writeBinFile Program.logPath ByteArray.empty).toBaseIO).mapError fileError

/-- The files that the options name. The log file is created first. -/
def findFiles (options : Options) : IO Files := do
  let logFile ← if options.log.usesFile then createLog else pure (.ok ())
  let paths := options.config :: match options.command with
    | .run script _ _ => [script]
    | .endpoints _ => []
  let contents ← paths.mapM fun path => do return (path, ← readFile path)
  let read (path : String) : Except FileError ByteArray :=
    match contents.find? (·.1 = path) with
    | some (_, content) => content
    | none => .error .missing
  return { read, logFile }

/-- Prints the lines of the output, with a pause before each further block. -/
def printOutput (pause : Nat) (lines : List String) : IO Unit := do
  for line in lines do
    if line = Display.separator then IO.sleep (min pause 0xffffffff).toUInt32
    IO.println line

/-- Prints an alert. A person at the terminal has to confirm it. -/
def printAlert (line : String) : IO Unit := do
  IO.eprintln line
  if (← (← IO.getStdin).isTty) && (← (← IO.getStderr).isTty) then
    IO.eprint "Press Enter to continue..."
    let _ ← (← IO.getStdin).getLine

def writeLog (options : Options) (files : Files) (entries : List Log.Entry) : IO Unit := do
  let lines := entries.map Log.Entry.fileLine
  if options.log.usesTerminal then lines.forM IO.eprintln
  if options.log.usesFile && files.logFile.isOk then
    IO.FS.writeFile Program.logPath (String.join (lines.map (· ++ "\n")))

def runWith (options : Options) : IO UInt32 := do
  let files ← findFiles options
  let outcome := Program.run files .offline options
  outcome.warning.forM IO.eprintln
  printOutput (Program.pause files options) outcome.output.written
  (outcome.alerts.map Display.alertLine).forM printAlert
  writeLog options files outcome.log
  outcome.errorLines.forM IO.eprintln
  return outcome.exitCode

end Runboard.Main

def main (args : List String) : IO UInt32 := do
  match Runboard.Command.parse args with
  | .ok options => Runboard.Main.runWith options
  | .error e =>
    let print : String → IO Unit := if e.exitCode = 0 then IO.println else IO.eprintln
    e.lines.forM print
    return e.exitCode
