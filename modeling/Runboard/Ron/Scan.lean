import Runboard.Text.Identifier

namespace Runboard.Ron

abbrev Scan := StateT (List Char) Option

def isSpace (c : Char) : Bool :=
  let n := c.toNat
  n = 0x20 || (0x09 ≤ n && n ≤ 0x0d) || n = 0x85 || n = 0x200e || n = 0x200f || n = 0x2028 ||
    n = 0x2029

inductive Gap
  | blanks
  | line
  /-- A block comment; blocks inside it have to be closed first. -/
  | block (inner : Nat)

/-- The text behind blanks and comments. A comment that is not closed, and a slash that opens
none, do not fit. -/
def afterGap? : Gap → List Char → Option (List Char)
  | .blanks, [] => some []
  | .blanks, '/' :: '/' :: rest => afterGap? .line rest
  | .blanks, '/' :: '*' :: rest => afterGap? (.block 0) rest
  | .blanks, '/' :: _ => none
  | .blanks, c :: rest => if isSpace c then afterGap? .blanks rest else some (c :: rest)
  | .line, [] => some []
  | .line, c :: rest => afterGap? (if c = '\n' then .blanks else .line) rest
  | .block _, [] => none
  | .block inner, '/' :: '*' :: rest => afterGap? (.block (inner + 1)) rest
  | .block inner, '*' :: '/' :: rest =>
    afterGap? (match inner with | 0 => .blanks | outer + 1 => .block outer) rest
  | .block inner, _ :: rest => afterGap? (.block inner) rest

def skipGap : Scan Unit := fun cs => (afterGap? .blanks cs).map ((), ·)

def take? (c : Char) : Scan Bool := fun cs =>
  match cs with
  | d :: rest => if c = d then some (true, rest) else some (false, cs)
  | [] => some (false, cs)

/-- Takes a character that has to be next. -/
def take (c : Char) : Scan Unit := do
  if ← take? c then return else failure

def takeAny : Scan Char := fun cs =>
  match cs with
  | c :: rest => some (c, rest)
  | [] => none

def takeText? (text : String) : Scan Bool := fun cs =>
  if text.toList.isPrefixOf cs then some (true, cs.drop text.length) else some (false, cs)

/-- Takes a comma with the blanks around it, if one is next. -/
def takeComma? : Scan Bool := do
  skipGap
  if ← take? ',' then
    skipGap
    return true
  return false

def isRawPart (c : Char) : Bool := Text.isNamePart c || c = '.' || c = '+' || c = '-'

def isWord (word : String) (cs : List Char) : Bool := cs.takeWhile isRawPart = word.toList

/-- The text opens a string or byte rather than a name. -/
def opensText (cs : List Char) : Bool :=
  ["b\"", "b\x27", "br#", "br\"", "r\"", "r#\"", "r##"].any (·.toList.isPrefixOf cs)

/-- A name and the text behind it, the name taken as short as it may be. -/
def splitName? (cs : List Char) : Option (List Char × List Char) :=
  if opensText cs then none
  else
    match cs with
    | 'r' :: '#' :: rest =>
      let name := rest.takeWhile isRawPart
      if name.isEmpty then none else some (name, rest.drop name.length)
    | c :: _ =>
      if Text.isNameStart c then some (cs.takeWhile Text.isNamePart, cs.dropWhile Text.isNamePart)
      else none
    | [] => none

/-- Takes a name. One that goes on with characters of raw names has to be written as such. -/
def takeName : Scan String := fun cs => do
  let (name, rest) ← splitName? cs
  let isRaw := "r#".toList.isPrefixOf cs
  if !isRaw && (rest.head?.map isRawPart).getD false then failure
  return (String.ofList name, rest)

/-- Reads items that commas divide, with one more comma allowed at the end, up to the closing
character. The budget bounds the number of items. -/
def itemsWithin {σ : Type} (close : Char) (item : σ → Scan σ) :
    Nat → Bool → σ → Scan σ
  | 0, _, _ => failure
  | budget + 1, ready, state => do
    skipGap
    if ← take? close then return state
    if !ready then failure
    let state ← item state
    let ready ← takeComma?
    itemsWithin close item budget ready state

/-- Reads items up to the closing character and takes it; each item takes a character at least. -/
def items {σ : Type} (close : Char) (item : σ → Scan σ) (state : σ) : Scan σ := fun cs =>
  itemsWithin close item (cs.length + 1) true state cs

end Runboard.Ron
