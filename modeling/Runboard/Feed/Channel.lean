import Runboard.Json.Fault
import Runboard.Message.Frame

namespace Runboard

/-- A queue of frames and which of its ends are still there. -/
structure Channel where
  queue : List Json := []
  receiving : Bool := true
  posting : Bool := true
deriving Repr, Inhabited

inductive ChannelError
  | closed
  | unencodable (cause : Json.Cause)
deriving Repr

namespace ChannelError

def message : ChannelError → String
  | .closed => "message channel is closed"
  | .unencodable cause => "message could not be serialized: " ++ cause.message

end ChannelError

inductive Receipt
  | frame (frame : Json)
  /-- Nothing is queued, but more may come. -/
  | waiting
  /-- Nothing is queued and nothing can come any more. -/
  | ended
deriving Repr

namespace Channel

def post (c : Channel) (frame : Json) : Except ChannelError Channel :=
  if c.receiving then .ok { c with queue := c.queue ++ [frame] } else .error .closed

def postEncoded (c : Channel) (encoded : Except Json.Cause Json) : Except ChannelError Channel :=
  match encoded with
  | .ok frame => c.post frame
  | .error cause => .error (.unencodable cause)

def send (c : Channel) (m : Message) : Except ChannelError Channel := c.post m.toFrame

def receive (c : Channel) : Receipt × Channel :=
  match c.queue with
  | frame :: rest => (.frame frame, { c with queue := rest })
  | [] => (if c.posting then .waiting else .ended, c)

def drain (c : Channel) : List Json × Channel := (c.queue, { c with queue := [] })

/-- Drops the receiving end; what is queued is lost. -/
def closeReceiver (c : Channel) : Channel := { c with queue := [], receiving := false }

/-- Drops every posting end. -/
def closePosts (c : Channel) : Channel := { c with posting := false }

end Channel


structure Bar where
  name : String
  count : Nat := 0
  length : Option Nat := none
deriving DecidableEq, Repr, Inhabited

namespace Bar

def countMax : Nat := 0xffffffffffffffff

/-- The counter of a bar: the count, and the length if it is known. -/
def counter (bar : Bar) : Counter :=
  match bar.length with
  | some length => ⟨Number.integerText bar.count ++ "/" ++ Number.integerText length⟩
  | none => .ofNat bar.count

def advance (bar : Bar) (n : Nat) : Bar := { bar with count := min countMax (bar.count + n) }

def withLength (bar : Bar) (n : Nat) : Bar := { bar with length := some n }

def counterMessage (bar : Bar) : Message := .update bar.name bar.counter

/-- Starts a bar. There is none if the channel is closed. -/
def start (c : Channel) (name : String) : Except ChannelError (Bar × Channel) := do
  return ({ name }, ← c.send (.add name))

def inc (bar : Bar) (n : Nat) (c : Channel) : Bar × Except ChannelError Channel :=
  let bar := bar.advance n
  (bar, c.send bar.counterMessage)

def setLength (bar : Bar) (n : Nat) (c : Channel) : Bar × Except ChannelError Channel :=
  let bar := bar.withLength n
  (bar, c.send bar.counterMessage)

def setMessage (bar : Bar) (text : String) (c : Channel) : Except ChannelError Channel :=
  c.send (.note bar.name text)

/-- Posts the last comment. -/
def finish (bar : Bar) (text : String) (c : Channel) : Except ChannelError Channel :=
  c.send (.finish bar.name text)

end Bar

def Channel.reportProblems (c : Channel) (items : List String) (isFinal : Bool) :
    Except ChannelError Channel :=
  c.send (.problems items isFinal)

end Runboard
