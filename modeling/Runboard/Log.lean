namespace Runboard.Log

inductive Level
  | error
  | warn
  | info
  | debug
  | trace
deriving DecidableEq, Repr

namespace Level

def name : Level → String
  | .error => "ERROR"
  | .warn => "WARN"
  | .info => "INFO"
  | .debug => "DEBUG"
  | .trace => "TRACE"

/-- Rank of a level; more important levels have lower rank. -/
def rank : Level → Nat
  | .error => 1
  | .warn => 2
  | .info => 3
  | .debug => 4
  | .trace => 5

end Level

/-- The least important level that is kept; nothing is kept without one. -/
abbrev Threshold := Option Level

namespace Threshold

def name : Threshold → String
  | none => "OFF"
  | some level => level.name

/-- The threshold a development build starts with. -/
def standard : Threshold := some .debug

def program : Threshold := some .info

def keeps (threshold : Threshold) (level : Level) : Bool :=
  match threshold with
  | none => false
  | some least => level.rank ≤ least.rank

/-- Installs the standard threshold. One that a logger has set already is overwritten, even
though that logger stays. -/
def install (_ : Threshold) : Threshold := standard

end Threshold

inductive Part
  | core
  | engine
  | app
deriving DecidableEq, Repr

inductive Source
  | board
  | run
  | replay
  | catalog
  | session
  | settings
  | alerts
deriving DecidableEq, Repr

namespace Source

def part : Source → Part
  | .board => .core
  | .run => .engine
  | .replay => .engine
  | .catalog => .engine
  | .session => .app
  | .settings => .app
  | .alerts => .app

def path : Source → String
  | .board => "monitor_core::update"
  | .run => "monitor_engine::engine"
  | .replay => "monitor_engine::runner"
  | .catalog => "monitor_engine::endpoints"
  | .session => "monitor_app::platform::app"
  | .settings => "monitor_app::platform::config"
  | .alerts => "monitor_app::platform::effects"

end Source

structure Entry where
  level : Level
  source : Source
  text : String
deriving DecidableEq, Repr

namespace Entry

def line (e : Entry) : String := e.level.name ++ " " ++ e.text

/-- The entry as it stands in the log file, without the time. -/
def fileLine (e : Entry) : String := "[" ++ e.level.name ++ "] " ++ e.source.path ++ ": " ++ e.text

end Entry

def filter (threshold : Threshold) (entries : List Entry) : List Entry :=
  entries.filter fun e => threshold.keeps e.level

def ofPart (part : Part) (entries : List Entry) : List Entry :=
  entries.filter fun e => e.source.part = part

end Runboard.Log
