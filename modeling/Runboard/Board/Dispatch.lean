import Runboard.Board.Basic
import Runboard.Log
import Runboard.Message.Frame

namespace Runboard.Board

def logEntry (level : Log.Level) (text : String) : Log.Entry := ⟨level, .board, text⟩

/-- What is logged when a message is about to be applied. -/
def applyLog (b : Board) (m : Message) : List Log.Entry :=
  logEntry .debug ("Dispatching " ++ m.label) ::
    match m with
    | .add name =>
      if b.isActive name then
        [logEntry .warn ("Progress entry " ++ Text.quoted name ++ " added twice, replacing it")]
      else []
    | .problems items isFinal =>
      [logEntry .debug ("Problem report with " ++ toString items.length ++ " entries (final: " ++
        (if isFinal then "true" else "false") ++ ")")]
    | _ => []

/-- A board after something arrived, with what was logged and the alerts for the operator. -/
structure Step where
  board : Board
  log : List Log.Entry := []
  alerts : List String := []
deriving Repr

def accept (b : Board) (m : Message) : Step :=
  match b.apply m with
  | .ok board => { board, log := b.applyLog m }
  | .error e =>
    { board := b
      log := b.applyLog m ++ [logEntry .warn ("Failed to handle message: " ++ e.message)] }

def alertText (frame : String) : String := "Invalid message: " ++ frame

def dispatch (b : Board) (frame : Json) : Step :=
  match Message.ofFrame frame with
  | .ok m => b.accept m
  | .error e =>
    match e.frameText? with
    | some text =>
      { board := b
        log := [logEntry .error ("Unrecognized message: " ++ e.message)]
        alerts := [alertText text] }
    | none => { board := b, log := [logEntry .warn ("Failed to handle message: " ++ e.message)] }

def dispatchAll (b : Board) : List Json → Step
  | [] => { board := b }
  | frame :: rest =>
    let first := b.dispatch frame
    let later := first.board.dispatchAll rest
    { board := later.board, log := first.log ++ later.log, alerts := first.alerts ++ later.alerts }

end Runboard.Board
