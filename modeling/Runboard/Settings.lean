import Runboard.Board.Report
import Runboard.File
import Runboard.Log
import Runboard.Ron.Value
import Runboard.Text.Quoted

namespace Runboard

structure Settings where
  headings : Headings := {}
  /-- Where the catalog of endpoints is. -/
  endpointsUrl : String :=
    "https://raw.githubusercontent.com/OParl/resources/master/endpoints.yml"
  /-- The pause between replayed frames, in milliseconds. -/
  replayDelay : Nat := 0
deriving DecidableEq, Repr, Inhabited

namespace Settings

open Ron (Scan Extension)

structure Slots where
  headings : Option Headings := none
  endpointsUrl : Option String := none
  replayDelay : Option Nat := none

/-- Settings with the standard value for those that were not given. -/
def ofSlots (slots : Slots) : Settings :=
  let standard : Settings := {}
  { headings := slots.headings.getD standard.headings
    endpointsUrl := slots.endpointsUrl.getD standard.endpointsUrl
    replayDelay := slots.replayDelay.getD standard.replayDelay }

/-- Reads a value that must not have been given before. -/
def once {α : Type} (given : Option α) (value : Scan α) : Scan (Option α) := do
  if given.isSome then failure
  return some (← value)

def headingField (extensions : List Extension) (depth : Nat) (name : String)
    (slots : Headings.Slots) : Scan Headings.Slots := do
  if name = "interim" then
    return { slots with interim := ← once slots.interim Ron.takeString }
  else if name = "finished" then
    return { slots with finished := ← once slots.finished Ron.takeString }
  else
    Ron.skipValue extensions depth
    return slots

def takeHeadings (extensions : List Extension) (depth : Nat) : Scan Headings := do
  Ron.openRecord extensions "ReportHeadings"
  return .ofSlots (← Ron.takeFields (headingField extensions depth) {})

def field (extensions : List Extension) (name : String) (slots : Slots) : Scan Slots := do
  let depth := Ron.maxDepth - 2
  if name = "headings" then
    return { slots with headings := ← once slots.headings (takeHeadings extensions (depth - 2)) }
  else if name = "endpoints_url" then
    return { slots with endpointsUrl := ← once slots.endpointsUrl Ron.takeString }
  else if name = "replay_delay_ms" then
    return { slots with replayDelay := ← once slots.replayDelay Ron.takeUnsigned }
  else
    Ron.skipValue extensions depth
    return slots

def ofText? (text : String) : Option Settings :=
  Ron.document? (fun extensions => do
    Ron.openRecord extensions "MonitorConfig"
    return ofSlots (← Ron.takeFields (field extensions) {})) text

structure Loaded where
  settings : Settings
  log : List Log.Entry

def logEntry (level : Log.Level) (text : String) : Log.Entry := ⟨level, .settings, text⟩

/-- The settings of a file. A file that is not there is nothing to speak of. -/
def load (files : Files) (path : String) : Loaded :=
  match files.readText path with
  | .error .missing => ⟨{}, []⟩
  | .error e =>
    let text := "Failed to read config from " ++ Text.quotedPath path ++ ": " ++ e.message
    ⟨{}, [logEntry .warn text]⟩
  | .ok text =>
    match ofText? text with
    | some settings =>
      ⟨settings, [logEntry .info ("Loaded config from " ++ Text.quotedPath path)]⟩
    | none => ⟨{}, [logEntry .warn "Failed to parse config"]⟩

end Settings

end Runboard
