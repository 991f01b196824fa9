namespace Runboard

inductive LogTarget
  | file
  | terminal
  | both
deriving DecidableEq, Repr

namespace LogTarget

def all : List LogTarget := [.file, .terminal, .both]

def name : LogTarget → String
  | .file => "file"
  | .terminal => "terminal"
  | .both => "both"

def ofName? (name : String) : Option LogTarget := all.find? (·.name = name)

def usesFile : LogTarget → Bool
  | .terminal => false
  | _ => true

def usesTerminal : LogTarget → Bool
  | .file => false
  | _ => true

end LogTarget

inductive Command
  /-- Replays a recorded run. -/
  | run (script : String) (url : String) (delay : Option Nat)
  /-- Lists the endpoints of the catalog. -/
  | endpoints (url : Option String)
deriving DecidableEq, Repr

structure Options where
  config : String
  log : LogTarget
  quiet : Bool
  command : Command
deriving DecidableEq, Repr

inductive UsageError
  | help
  | version
  | helpForNothing
  | missingCommand
  | missingOption
  | unknownArgument
  | unknownCommand
  | invalidValue
  | unreadableValue
  | repeated
  | needlessValue
deriving DecidableEq, Repr

/-- The exit code: help and version are what was asked for, anything else is refused. -/
def UsageError.exitCode : UsageError → UInt32
  | .help => 0
  | .version => 0
  | _ => 2

end Runboard

namespace Runboard.UsageError

def helpLines : List String :=
  ["Live progress and problem report for city-data validation runs",
   "",
   "Usage: monitor_app [OPTIONS] <COMMAND>",
   "",
   "Commands:",
   "  run        Replay a recorded JSON-lines message script through the monitor",
   "  endpoints  Load the endpoint catalog and print the selection list",
   "  help       Print this message or the help of the given subcommand(s)",
   "",
   "Options:",
   "      --config <CONFIG>  RON config file; missing file means defaults [default: ./monitor.ron]",
   "      --log <LOG>        Where log output goes [default: file] [possible values: file, terminal, both]",
   "      --quiet            Only print the final state",
   "  -h, --help             Print help",
   "  -V, --version          Print version",
   "",
   "Options of run:",
   "      --script <SCRIPT>      Recorded message script",
   "      --url <URL>            Target handed to the task runner [default: replay]",
   "      --delay-ms <DELAY_MS>  Pause between frames, overrides the config",
   "",
   "Options of endpoints:",
   "      --url <URL>  Catalog location, overrides the config"]

/-- The lines that answer arguments that lead to nothing being done. -/
def lines : UsageError → List String
  | .help => helpLines
  | .helpForNothing => helpLines
  | .version => ["monitor_app 0.1.0"]
  | .missingCommand => ["error: a command is required"]
  | .missingOption => ["error: --script is required"]
  | .unknownArgument => ["error: unexpected argument found"]
  | .unknownCommand => ["error: unrecognized command"]
  | .invalidValue => ["error: invalid or missing value"]
  | .unreadableValue => ["error: value is not a number"]
  | .repeated => ["error: an option cannot be used multiple times"]
  | .needlessValue => ["error: unexpected value for an option"]

end Runboard.UsageError
