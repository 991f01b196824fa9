import Runboard.Board.Basic
import Runboard.Text.Basic

namespace Runboard.Display

/-- A character as it is shown: line ends and tabs as spaces, other controls replaced. -/
def plainChar (c : Char) : Char :=
  if c = '\n' || c = '\r' || c = '\t' then ' ' else if Text.isControl c then '�' else c

/-- A text from outside as one line. -/
def plainText (text : String) : String := text.map plainChar

def marker : Indicator → String
  | .spinner => "⏳"
  | .done => "✅"

def rowLine (row : RowView) : String :=
  let head := marker row.indicator ++ " [" ++ plainText row.name ++ "] " ++ plainText row.counter
  if row.message.isEmpty then head else head ++ ": " ++ plainText row.message

/-- The lines of a report, after an empty one. -/
def reportLines (report : ReportView) : List String :=
  "" :: ("== " ++ plainText report.heading ++ " ==") ::
    report.problems.map fun problem => "- " ++ plainText problem

def statusLine (view : View) : String :=
  "Progress: " ++ toString view.activeCount ++ " running | " ++ toString view.rows.length ++
    " total"

def viewLines (view : View) : List String :=
  statusLine view :: view.rows.map rowLine ++ (view.report.map reportLines).getD []

def separator : String := "----"

def alertLine (text : String) : String := "⚠ " ++ plainText text

/-- The first line of a list to choose from. -/
def placeholder : String := "... or choose a city"

/-- The lines of a list of names and addresses to choose from. -/
def optionLines (options : List (String × String)) : List String :=
  placeholder :: options.map fun (name, url) => plainText name ++ " (" ++ plainText url ++ ")"

end Runboard.Display

namespace Runboard

/-- What someone says who is asked again and again: first the listed answers, then one for ever. -/
structure Answers where
  listed : List Bool := []
  after : Bool := true
deriving DecidableEq, Repr, Inhabited

namespace Answers

def next (a : Answers) : Bool × Answers :=
  match a.listed with
  | [] => (a.after, a)
  | first :: rest => (first, { a with listed := rest })

/-- So many times yes, and no for ever. -/
def upTo (count : Nat) : Answers := ⟨List.replicate count true, false⟩

end Answers

/-- The lines written so far, and what the output will say to further lines and flushes. -/
structure Output where
  written : List String := []
  lines : Answers := {}
  flushes : Answers := {}
deriving DecidableEq, Repr, Inhabited

inductive OutputError
  | refused
deriving DecidableEq, Repr

namespace OutputError

def message : OutputError → String
  | .refused => "closed"

end OutputError

namespace Output

/-- Writes lines until one is refused. Those before it stay written. -/
def writeLines : Output → List String → Output × Except OutputError Unit
  | out, [] => (out, .ok ())
  | out, line :: rest =>
    match out.lines.next with
    | (true, lines) => writeLines { out with written := out.written ++ [line], lines } rest
    | (false, lines) => ({ out with lines }, .error .refused)

/-- What has been written stays so if the flush is refused. -/
def flush (out : Output) : Output × Except OutputError Unit :=
  match out.flushes.next with
  | (true, flushes) => ({ out with flushes }, .ok ())
  | (false, flushes) => ({ out with flushes }, .error .refused)

def write (out : Output) (lines : List String) : Output × Except OutputError Unit :=
  match out.writeLines lines with
  | (out, .ok ()) => out.flush
  | (out, .error e) => (out, .error e)

def text (out : Output) : String := String.join (out.written.map (· ++ "\n"))

end Output

end Runboard
