import Runboard.Board.Dispatch
import Runboard.Feed.Channel
import Runboard.Json.Parser
import Runboard.Text.Basic

namespace Runboard

structure Script where
  frames : List Json
deriving Repr, Inhabited

/-- The first line of a script that is no JSON, counted from one with blank lines included. -/
structure ScriptError where
  line : Nat
  reason : Json.ReadError
deriving Repr

namespace ScriptError

def message (e : ScriptError) : String :=
  "script line " ++ toString e.line ++ " is not valid JSON: " ++ e.reason.message

end ScriptError

namespace Script

/-- The frame of a line; a blank line has none. -/
def readLine (line : List Char) : Except Json.ReadError (Option Json) :=
  if line.all Text.isBlank then .ok none else some <$> Json.parseChars line

/-- The frames of lines, the first of which has the number `line`. -/
def readLines (line : Nat) : List (List Char) → Except ScriptError (List Json)
  | [] => .ok []
  | first :: rest =>
    match readLine first with
    | .error reason => .error ⟨line, reason⟩
    | .ok frame => do return frame.toList ++ (← readLines (line + 1) rest)

def parse (text : String) : Except ScriptError Script := do
  return ⟨← readLines 1 (Text.lines text.toList)⟩

end Script

inductive RunError
  | script (e : ScriptError)
  | channel (e : ChannelError)
  /-- The run could not be set up, with the reason of the system. -/
  | startup (reason : String)
  | crashed
deriving Repr

namespace RunError

def message : RunError → String
  | .script e => e.message
  | .channel e => e.message
  | .startup reason => "could not start runtime: " ++ reason
  | .crashed => "task runner panicked"

end RunError

inductive Task
  /-- Posts recorded frames and returns. -/
  | replay (frames : List Json)
  /-- Posts frames and then gives up with an error of its own. -/
  | fail (frames : List Json) (e : RunError)
  /-- Posts frames and then crashes. -/
  | crash (frames : List Json)
deriving Repr

/-- A finished run: the channel it leaves behind, how it ended and what it logged. -/
structure RunResult where
  channel : Channel
  outcome : Except RunError Unit
  log : List Log.Entry

namespace Task

/-- Posts frames, the first of which has the number `number`, and logs each of them. -/
def postLogged (c : Channel) (number : Nat) :
    List Json → Channel × Except ChannelError Unit × List Log.Entry
  | [] => (c, .ok (), [])
  | frame :: rest =>
    let entry : Log.Entry := ⟨.debug, .replay, "Posting frame " ++ toString number⟩
    match c.post frame with
    | .error e => (c, .error e, [entry])
    | .ok c =>
      let (c, outcome, log) := postLogged c (number + 1) rest
      (c, outcome, entry :: log)

def postSilently (c : Channel) (frames : List Json) : Channel × Except ChannelError Unit :=
  match frames with
  | [] => (c, .ok ())
  | frame :: rest =>
    match c.post frame with
    | .error e => (c, .error e)
    | .ok c => postSilently c rest

def returnLog (url : String) : Except RunError Unit → List Log.Entry
  | .error e => [⟨.warn, .run, "Run for " ++ url ++ " failed: " ++ e.message⟩]
  | .ok () => []

/-- What a task does on its own. A crash leaves no word. -/
def work (task : Task) (url : String) (c : Channel) : RunResult :=
  match task with
  | .replay frames =>
    let (channel, posted, log) := postLogged c 1 frames
    let outcome := posted.mapError .channel
    let entry : Log.Entry :=
      ⟨.info, .replay, "Replaying " ++ toString frames.length ++ " frames for " ++ url⟩
    { channel, outcome, log := entry :: log ++ returnLog url outcome }
  | .fail frames e =>
    let (channel, posted) := postSilently c frames
    let outcome := do posted.mapError .channel; .error e
    { channel, outcome, log := returnLog url outcome }
  | .crash frames =>
    match postSilently c frames with
    | (channel, .ok ()) => { channel, outcome := .error .crashed, log := [] }
    | (channel, .error e) =>
      { channel, outcome := .error (.channel e), log := returnLog url (.error (.channel e)) }

def run (task : Task) (url : String) (c : Channel) : RunResult :=
  let result := task.work url c
  { channel := result.channel.closePosts
    outcome := result.outcome
    log := ⟨.info, .run, "Starting run for " ++ url⟩ :: result.log }

end Task

end Runboard
