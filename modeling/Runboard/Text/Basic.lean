namespace Runboard.Text

/-- Membership in an increasing list of closed ranges; the search stops at the first range
that starts beyond `n`. -/
def inRanges : List (Nat × Nat) → Nat → Bool
  | [], _ => false
  | (low, high) :: rest, n => if n < low then false else n ≤ high || inRanges rest n

def hexValue? (c : Char) : Option Nat :=
  let n := c.toNat
  if '0'.toNat ≤ n ∧ n ≤ '9'.toNat then some (n - '0'.toNat)
  else if 'a'.toNat ≤ n ∧ n ≤ 'f'.toNat then some (n - 'a'.toNat + 10)
  else if 'A'.toNat ≤ n ∧ n ≤ 'F'.toNat then some (n - 'A'.toNat + 10)
  else none

/-- Splits a text at every mark; there is always one piece more than there are marks. -/
def splitAtMark (mark : Char) : List Char → List (List Char)
  | [] => [[]]
  | c :: rest =>
    if c = mark then [] :: splitAtMark mark rest
    else
      match splitAtMark mark rest with
      | piece :: pieces => (c :: piece) :: pieces
      | [] => [[c]]

/-- Words that start with capitals, written small and with hyphens between them. -/
def hyphenated (words : String) : String :=
  match words.toList with
  | [] => ""
  | first :: rest =>
    String.ofList (first.toLower ::
      rest.flatMap fun c => if c.isUpper then ['-', c.toLower] else [c])

/-- White space in the sense of the Unicode property. -/
def isBlank (c : Char) : Bool :=
  let n := c.toNat
  (0x09 ≤ n && n ≤ 0x0d) || n == 0x20 || n == 0x85 || n == 0xa0 || n == 0x1680 ||
    (0x2000 ≤ n && n ≤ 0x200a) || n == 0x2028 || n == 0x2029 || n == 0x202f || n == 0x205f ||
    n == 0x3000

/-- Control characters: the two blocks U+0000 to U+001F and U+007F to U+009F. -/
def isControl (c : Char) : Bool :=
  c.toNat < 0x20 || (0x7f ≤ c.toNat && c.toNat < 0xa0)

/-- Cuts a text at every line feed: the first piece, and the pieces after it. -/
def splitFeeds : List Char → List Char × List (List Char)
  | [] => ([], [])
  | c :: rest =>
    let (head, tail) := splitFeeds rest
    if c = '\n' then ([], head :: tail) else (c :: head, tail)

def dropReturn : List Char → List Char
  | [] => []
  | ['\r'] => []
  | c :: rest => c :: dropReturn rest

/-- Pieces of a cut text as lines: every piece but the last one ended in a line feed, so its
final carriage return goes; an empty last piece is no line. -/
def terminateLines : List Char → List (List Char) → List (List Char)
  | [], [] => []
  | last, [] => [last]
  | piece, next :: rest => dropReturn piece :: terminateLines next rest

def lines (text : List Char) : List (List Char) :=
  let (head, tail) := splitFeeds text
  terminateLines head tail

end Runboard.Text
