import Runboard.Yaml.Token

namespace Runboard.Yaml.Block

/-- What becomes of the line ends at the end of a block scalar. -/
inductive Chomping
  | clip
  | strip
  | keep
deriving DecidableEq, Repr

def chomping? : Char → Option Chomping
  | '+' => some .keep
  | '-' => some .strip
  | _ => none

/-- Chomping and indentation after the indicator, in either order. No indentation is zero. -/
def takeHeader (c : Cursor) : Option (Chomping × Nat × Cursor) :=
  let sign (c : Cursor) : Option Chomping × Cursor :=
    match c.rest.head?.bind chomping? with
    | some ch => (some ch, c.skip 1)
    | none => (none, c)
  let digit (c : Cursor) : Option (Nat × Cursor) :=
    match c.rest.head? with
    | some x =>
      if x == '0' then none
      else if x.isDigit then some (x.toNat - '0'.toNat, c.skip 1)
      else some (0, c)
    | none => some (0, c)
  match sign c with
  | (some ch, c) => do
    let (n, c) ← digit c
    return (ch, n, c)
  | (none, c) => do
    let (n, c) ← digit c
    if n = 0 then return (.clip, 0, c)
    let (ch, c) := sign c
    return (ch.getD .clip, n, c)

/-- Empty lines: their line ends, the widest indentation met and the cursor on the first line
that is not empty. Without an indentation yet, any number of spaces is taken. -/
def takeEmptyLines (indent : Nat) : (fuel : Nat) → (widest : Nat) → (breaks : String) → Cursor →
    Option (Nat × String × Cursor)
  | 0, _, _, _ => none
  | fuel + 1, widest, breaks, c =>
    let spaces := (c.rest.takeWhile (· == ' ')).length
    let c := c.skip (if indent = 0 then spaces else min spaces (indent - c.column))
    let widest := max widest c.column
    if (indent = 0 || c.column < indent) && c.sees '\t' then none
    else if c.seesAny isBreak then
      let (br, c) := c.takeBreak
      takeEmptyLines indent fuel widest (breaks ++ br) c
    else some (widest, breaks, c)

structure Lines where
  text : String := ""
  lastBreak : String := ""
  emptyLines : String := ""
  /-- The last line began with a blank, so that its line end is not folded. -/
  blankBefore : Bool := false

def takeLines (literal : Bool) (indent : Nat) : (fuel : Nat) → Lines → Cursor →
    Option (Lines × Cursor)
  | 0, _, _ => none
  | fuel + 1, l, c =>
    if c.column != indent || c.atEnd then some (l, c)
    else do
      let blank := c.seesAny isBlank
      let gap :=
        if !literal && l.lastBreak == "\n" && !l.blankBefore && !blank then
          if l.emptyLines.isEmpty then " " else ""
        else l.lastBreak
      let (line, c) := c.takeWhile (!isBreak ·)
      let (lastBreak, c) := c.takeBreak
      let (_, emptyLines, c) ← takeEmptyLines indent (c.rest.length + 1) 0 "" c
      let text := l.text ++ gap ++ l.emptyLines ++ line
      takeLines literal indent fuel { text, lastBreak, emptyLines, blankBefore := blank } c

/-- A block scalar from its indicator on, inside a collection indented by `outer`. -/
def take (literal : Bool) (outer : Int) (c : Cursor) : Option (String × Cursor) := do
  let (chomping, increment, c) ← takeHeader (c.skip 1)
  let c ← c.finishLine
  let given := if increment = 0 then 0 else (max outer 0).toNat + increment
  let (widest, breaks, c) ← takeEmptyLines given (c.rest.length + 1) 0 "" c
  let indent := if given = 0 then max widest (max (outer + 1) 1).toNat else given
  let (l, c) ← takeLines literal indent (c.rest.length + 1) { emptyLines := breaks } c
  let tail := match chomping with
    | .strip => ""
    | .clip => l.lastBreak
    | .keep => l.lastBreak ++ l.emptyLines
  return (l.text ++ tail, c)

end Runboard.Yaml.Block
