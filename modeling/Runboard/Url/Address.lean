import Runboard.Text.Basic

namespace Runboard.Url

/-- The upper-case hexadecimal digit of a value below sixteen. -/
def hexDigit (n : Nat) : Char := (Nat.digitChar n).toUpper

def escapedByte (b : UInt8) : List Char :=
  ['%', hexDigit (b.toNat / 16), hexDigit (b.toNat % 16)]

def escapedChar (c : Char) : List Char :=
  (String.singleton c).toUTF8.toList.flatMap escapedByte

/-- A character with an escape if it is in the set. -/
def escape (inSet : Char → Bool) (c : Char) : List Char :=
  if inSet c then escapedChar c else [c]

def escaped (inSet : Char → Bool) (cs : List Char) : List Char := cs.flatMap (escape inSet)

/-- Characters that are escaped everywhere: controls and whatever is not ASCII. -/
def neverPlain (c : Char) : Bool := c.toNat < 0x20 || 0x7f ≤ c.toNat

/-- Characters escaped behind `#`. -/
def notInFragment (c : Char) : Bool := neverPlain c || [' ', '"', '<', '>', '\x60'].contains c

/-- Characters escaped behind `?`. -/
def notInQuery (c : Char) : Bool := neverPlain c || [' ', '"', '#', '<', '>'].contains c

def notInWebQuery (c : Char) : Bool := notInQuery c || c = '\x27'

def notInPath (c : Char) : Bool :=
  notInFragment c || ['#', '?', '^', '\x7b', '\x7d'].contains c

def notInUser (c : Char) : Bool :=
  notInPath c || ['/', ':', ';', '=', '@', '[', '\\', ']', '|'].contains c

/-- The bytes of a text with its escapes read. A `%` without two digits stands for itself. -/
def unescapedBytes : List Char → List UInt8
  | [] => []
  | '%' :: high :: low :: rest =>
    match Text.hexValue? high, Text.hexValue? low with
    | some h, some l => (16 * h + l).toUInt8 :: unescapedBytes rest
    | _, _ => '%'.toNat.toUInt8 :: unescapedBytes (high :: low :: rest)
  | c :: rest => (String.singleton c).toUTF8.toList ++ unescapedBytes rest

/-- The text with its escapes read, if that is a text. -/
def unescaped? (cs : List Char) : Option (List Char) :=
  (String.fromUTF8? ⟨(unescapedBytes cs).toArray⟩).map String.toList


/-- The digits of a base that is at most sixteen, as a number. -/
def number? (base : Nat) (cs : List Char) : Option Nat :=
  cs.foldlM (fun total c =>
    match Text.hexValue? c with
    | some d => if d < base then some (base * total + d) else none
    | none => none) 0

/-- A number of an address: decimal, octal behind `0` or hexadecimal behind `0x`. -/
def hostNumber? : List Char → Option Nat
  | [] => none
  | '0' :: 'x' :: rest => number? 16 rest
  | '0' :: 'X' :: rest => number? 16 rest
  | '0' :: d :: rest => number? 8 (d :: rest)
  | cs => number? 10 cs

/-- The last piece is a number, so the host can only be an address. An empty piece at the end
does not count. -/
def endsInNumber (cs : List Char) : Bool :=
  let pieces := (Text.splitAtMark '.' cs).reverse
  let last :=
    match pieces with
    | [] :: before :: _ => before
    | [[]] => []
    | piece :: _ => piece
    | [] => []
  (!last.isEmpty && last.all Char.isDigit) || (hostNumber? last).isSome

/-- The value of an address of up to four numbers, of which the last fills the bytes that are
left. -/
def ipv4? (cs : List Char) : Option Nat := do
  let pieces := Text.splitAtMark '.' cs
  let pieces := if pieces.getLast? = some [] then pieces.dropLast else pieces
  if 4 < pieces.length then failure
  let numbers ← pieces.mapM hostNumber?
  let last ← numbers.getLast?
  let leading := numbers.dropLast
  if Nat.pow 256 (4 - leading.length) ≤ last then failure
  if leading.any (255 < ·) then failure
  let front := leading.foldl (fun total n => 256 * total + n) 0
  return front * Nat.pow 256 (4 - leading.length) + last

def ipv4Text (n : Nat) : String :=
  ".".intercalate ([n / 0x1000000, n / 0x10000 % 256, n / 0x100 % 256, n % 256].map toString)

/-- A group of one to four hexadecimal digits. -/
def ipv6Group? (cs : List Char) : Option Nat :=
  if cs.isEmpty || 4 < cs.length then none else number? 16 cs

def byte? (cs : List Char) : Option Nat := do
  if cs.isEmpty || (1 < cs.length && cs.head? = some '0') then failure
  let n ← number? 10 cs
  if 255 < n then failure
  return n

def quadGroups? (cs : List Char) : Option (List Nat) := do
  let bytes ← (Text.splitAtMark '.' cs).mapM byte?
  match bytes with
  | [a, b, c, d] => return [256 * a + b, 256 * c + d]
  | _ => failure

/-- The groups of one side of an address; the last may be four bytes if `quad` is set. -/
def ipv6Groups? (quad : Bool) : List (List Char) → Option (List Nat)
  | [] => some []
  | [last] =>
    if quad && last.contains '.' then quadGroups? last
    else (ipv6Group? last).map ([·])
  | piece :: rest => do
    let group ← ipv6Group? piece
    let groups ← ipv6Groups? quad rest
    return group :: groups

/-- Splits a text at the first `::`. -/
def splitGap : List Char → List Char × Option (List Char)
  | [] => ([], none)
  | ':' :: ':' :: rest => ([], some rest)
  | c :: rest =>
    let (before, after) := splitGap rest
    (c :: before, after)

/-- The groups of a side of a gap, which may be empty. -/
def sideGroups? (quad : Bool) (cs : List Char) : Option (List Nat) :=
  if cs.isEmpty then some [] else ipv6Groups? quad (Text.splitAtMark ':' cs)

/-- The eight groups of an address. One gap stands for groups of zero, at least one. -/
def ipv6? (cs : List Char) : Option (List Nat) := do
  match splitGap cs with
  | (all, none) =>
    let groups ← ipv6Groups? true (Text.splitAtMark ':' all)
    if groups.length = 8 then return groups else failure
  | (left, some right) =>
    let before ← sideGroups? false left
    let after ← sideGroups? true right
    if 7 < before.length + after.length then failure
    return before ++ List.replicate (8 - before.length - after.length) 0 ++ after

def leadingZeros (groups : List Nat) : Nat := (groups.takeWhile (· = 0)).length

/-- The place and size of the first longest run of zeros. -/
def longestGap : Nat → List Nat → Nat × Nat
  | _, [] => (0, 0)
  | place, group :: rest =>
    let here := leadingZeros (group :: rest)
    let later := longestGap (place + 1) rest
    if later.2 ≤ here then (place, here) else later

def groupsText (groups : List Nat) : String :=
  ":".intercalate (groups.map fun n => String.ofList (Nat.toDigits 16 n))

/-- An address of eight groups as text; the longest run of two or more zeros is left out. -/
def ipv6Text (groups : List Nat) : String :=
  let (place, size) := longestGap 0 groups
  if size < 2 then groupsText groups
  else groupsText (groups.take place) ++ "::" ++ groupsText (groups.drop (place + size))

end Runboard.Url
