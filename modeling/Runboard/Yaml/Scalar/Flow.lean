import Runboard.Text.Basic
import Runboard.Yaml.Token

namespace Runboard.Yaml

/-- A scalar that is being read: its text so far, and the blanks and line ends after it. -/
structure Folding where
  text : String := ""
  blanks : String := ""
  firstBreak : String := ""
  moreBreaks : String := ""
  /-- The blanks contain a line end. -/
  broken : Bool := false
deriving Repr, Inhabited

namespace Folding

/-- Adds what the blanks and line ends stand for. -/
def join (f : Folding) : Folding :=
  if f.broken then
    let gap :=
      if f.firstBreak == "\n" then if f.moreBreaks.isEmpty then " " else f.moreBreaks
      else f.firstBreak ++ f.moreBreaks
    { text := f.text ++ gap }
  else { text := f.text ++ f.blanks }

def push (f : Folding) (c : Char) : Folding := { f with text := f.text.push c }

/-- Takes blanks and line ends. A tab may not stand in front of the column `indent` of a
continued line; `fuel` bounds the number of steps. -/
def takeGap (indent : Int) : (fuel : Nat) → Folding → Cursor → Option (Folding × Cursor)
  | 0, _, _ => none
  | fuel + 1, f, c =>
    match c.rest with
    | x :: _ =>
      if isBlank x then
        if f.broken && x == '\t' && (c.column : Int) < indent then none
        else
          let f := if f.broken then f else { f with blanks := f.blanks.push x }
          takeGap indent fuel f (c.skip 1)
      else if isBreak x then
        let (br, c) := c.takeBreak
        takeGap indent fuel
          (if f.broken then { f with moreBreaks := f.moreBreaks ++ br }
            else { f with blanks := "", firstBreak := f.firstBreak ++ br, broken := true }) c
      else some (f, c)
    | [] => some (f, c)

end Folding

end Runboard.Yaml

namespace Runboard.Yaml.Plain

def isFlowMark (c : Char) : Bool := c == ',' || c == '[' || c == ']' || c == '\x7b' || c == '\x7d'

/-- A colon right before one of these is a fault inside a flow collection. -/
def isAfterColon (c : Char) : Bool := isFlowMark c || c == '?'

def endsHere (flow : Bool) (c : Cursor) : Bool :=
  (c.sees ':' && c.gapAt 1) || (flow && c.seesAny isFlowMark)

/-- Characters up to a gap or the end of the scalar. -/
def takeWord (flow : Bool) : (fuel : Nat) → Folding → Cursor → Option (Folding × Cursor)
  | 0, _, _ => none
  | fuel + 1, f, c =>
    if c.gapAt 0 then some (f, c)
    else if flow && c.sees ':' && (c.rest[1]?).any isAfterColon then none
    else if endsHere flow c then some (f, c)
    else
      match c.rest with
      | x :: _ =>
        let f := if f.broken || !f.blanks.isEmpty then f.join else f
        takeWord flow fuel (f.push x) (c.skip 1)
      | [] => some (f, c)

def takeWords (flow : Bool) (indent : Int) : (fuel : Nat) → Folding → Cursor →
    Option (Folding × Cursor)
  | 0, _, _ => none
  | fuel + 1, f, c =>
    if c.atDocumentMarker || c.sees '#' then some (f, c)
    else do
      let (f, c) ← takeWord flow (c.rest.length + 1) f c
      if !(c.seesAny fun x => isBlank x || isBreak x) then return (f, c)
      let (f, c) ← f.takeGap indent (c.rest.length + 1) c
      if !flow && (c.column : Int) < indent then return (f, c)
      takeWords flow indent fuel f c

/-- A plain scalar inside a collection indented by `indent`. Gives its text, whether line ends
follow it, and the cursor behind them. -/
def take (flow : Bool) (indent : Int) (c : Cursor) : Option (String × Bool × Cursor) := do
  let (f, c) ← takeWords flow (indent + 1) (c.rest.length + 1) {} c
  return (f.text, f.broken, c)

end Runboard.Yaml.Plain

namespace Runboard.Yaml.Quoted

def escaped? : Char → Option Char
  | '0' => some '\x00'
  | 'a' => some '\x07'
  | 'b' => some '\x08'
  | 't' => some '\t'
  | '\t' => some '\t'
  | 'n' => some '\n'
  | 'v' => some '\x0b'
  | 'f' => some '\x0c'
  | 'r' => some '\r'
  | 'e' => some '\x1b'
  | ' ' => some ' '
  | '"' => some '"'
  | '/' => some '/'
  | '\\' => some '\\'
  | 'N' => some '\u0085'
  | '_' => some '\u00a0'
  | 'L' => some '\u2028'
  | 'P' => some '\u2029'
  | _ => none

/-- The number of hexadecimal digits after an escape by code point. -/
def codeLength? : Char → Option Nat
  | 'x' => some 2
  | 'u' => some 4
  | 'U' => some 8
  | _ => none

def codeChar? (digits : List Char) : Option Char := do
  let n ← digits.foldlM (fun n c => do return n * 16 + (← Text.hexValue? c)) 0
  if h : n.isValidChar then return Char.ofNatAux n h else none

def takeEscape (c : Cursor) : Option (Char × Cursor) :=
  match c.rest with
  | [] => none
  | x :: rest =>
    match codeLength? x with
    | some n => do
      if (rest.take n).length < n then none
      return (← codeChar? (rest.take n), c.skip (n + 1))
    | none => do return (← escaped? x, c.skip 1)

/-- Characters up to a gap, to the closing quote or over an escaped line end. -/
def takeWord (quote : Char) : (fuel : Nat) → Folding → Cursor → Option (Folding × Cursor)
  | 0, _, _ => none
  | fuel + 1, f, c =>
    if c.gapAt 0 then some (f, c)
    else
      match c.rest with
      | [] => some (f, c)
      | x :: rest =>
        if quote == '\x27' && x == '\x27' && rest.head? == some '\x27' then
          takeWord quote fuel (f.push '\x27') (c.skip 2)
        else if x == quote then some (f, c)
        else if quote == '"' && x == '\\' then
          if rest.head?.any isBreak then some ({ f with broken := true }, (c.skip 1).skipBreak)
          else do
            let (y, c) ← takeEscape (c.skip 1)
            takeWord quote fuel (f.push y) c
        else takeWord quote fuel (f.push x) (c.skip 1)

/-- Words and the gaps between them, up to the closing quote. -/
def takeWords (quote : Char) : (fuel : Nat) → Folding → Cursor → Option (String × Cursor)
  | 0, _, _ => none
  | fuel + 1, f, c => do
    if c.atDocumentMarker || c.atEnd then none
    let (f, c) ← takeWord quote (c.rest.length + 1) f c
    if c.sees quote then return (f.text, c.skip 1)
    let (f, c) ← f.takeGap 0 (c.rest.length + 1) c
    takeWords quote fuel f.join c

/-- A quoted scalar from its opening quote on. -/
def take (quote : Char) (c : Cursor) : Option (String × Cursor) :=
  takeWords quote (c.rest.length + 1) {} (c.skip 1)

end Runboard.Yaml.Quoted
