import Runboard.Ron.Scan
import Runboard.Text.Basic

namespace Runboard.Ron

structure Bounds where
  least : Int
  greatest : Int
deriving DecidableEq

def Bounds.unsigned (bits : Nat) : Bounds := ⟨0, Nat.pow 2 bits - 1⟩

def Bounds.signed (bits : Nat) : Bounds := ⟨-Nat.pow 2 (bits - 1), Nat.pow 2 (bits - 1) - 1⟩

def integerTypes : List (String × Bounds) :=
  [("i8", .signed 8), ("i16", .signed 16), ("i32", .signed 32), ("i64", .signed 64),
   ("u8", .unsigned 8), ("u16", .unsigned 16), ("u32", .unsigned 32), ("u64", .unsigned 64)]

def isIntegerChar (c : Char) : Bool := (Text.hexValue? c).isSome || c = '_'

def isFloatChar (c : Char) : Bool := c.isDigit || ['e', 'E', '.', '+', '-', '_'].contains c

/-- How reading an integer ended: with its value and the text behind it, or at a character that
does not fit, or behind an integer that is out of bounds. -/
inductive Reading
  | value (n : Int) (rest : List Char)
  | misfit (rest : List Char)
  | tooLarge (rest : List Char)

/-- The base that is named in front of digits, and the digits. -/
def splitBase : List Char → Nat × List Char
  | '0' :: 'b' :: rest => (2, rest)
  | '0' :: 'o' :: rest => (8, rest)
  | '0' :: 'x' :: rest => (16, rest)
  | cs => (10, cs)

/-- Reads digits, adding them to a number or, below zero, taking them from it. -/
def readDigits (bounds : Bounds) (base : Nat) (negative : Bool) : Int → List Char → Reading
  | n, [] => .value n []
  | n, c :: rest =>
    if c = '_' then readDigits bounds base negative n rest
    else
      match Text.hexValue? c with
      | none => .value n (c :: rest)
      | some d =>
        let scaled := n * base
        let next := if negative then scaled - d else scaled + d
        let isOut (k : Int) : Bool := k < bounds.least || bounds.greatest < k
        if isOut scaled then .tooLarge (rest.dropWhile isIntegerChar)
        else if base ≤ d then .misfit (c :: rest)
        else if isOut next then .tooLarge (rest.dropWhile isIntegerChar)
        else readDigits bounds base negative next rest

def readMagnitude (bounds : Bounds) (negative : Bool) (cs : List Char) : Reading :=
  let (base, digits) := splitBase cs
  match digits with
  | [] => .misfit []
  | c :: _ =>
    if c = '_' || !isIntegerChar c then .misfit digits
    else readDigits bounds base negative 0 digits

def splitSign : List Char → Bool × List Char
  | '+' :: rest => (false, rest)
  | '-' :: rest => (true, rest)
  | cs => (false, cs)

/-- The type that is named behind the leading digits. -/
def namedType? (cs : List Char) : Option (String × Bounds) :=
  let rest := cs.dropWhile isIntegerChar
  integerTypes.find? fun t => isWord t.1 rest

def dropTypeName (cs : List Char) : List Char :=
  if (cs.head?.map Text.isNameStart).getD false then cs.dropWhile Text.isNamePart else cs

/-- Reads an integer of the type that it names. -/
def readNamed (bounds : Bounds) (negative : Bool) (cs : List Char) : Reading :=
  match readMagnitude bounds negative cs with
  | .value n rest => .value n (dropTypeName rest)
  | .tooLarge rest => .tooLarge (dropTypeName rest)
  | .misfit rest => .misfit rest

/-- Takes an integer of 64 bits without sign; it may name that type and no other. -/
def takeUnsigned : Scan Nat := fun cs =>
  let (negative, magnitude) := splitSign cs
  let reading :=
    match namedType? magnitude with
    | some ("u64", bounds) => readNamed bounds negative magnitude
    | some _ => .misfit cs
    | none => readMagnitude (.unsigned 64) negative magnitude
  match reading with
  | .value n rest => some (n.toNat, rest)
  | _ => none

/-- Reads an integer of any type; without a type the widest one counts. -/
def readInteger (cs : List Char) : Reading :=
  let (negative, magnitude) := splitSign cs
  match namedType? magnitude with
  | some (_, bounds) => readNamed bounds negative magnitude
  | none => readMagnitude (if negative then .signed 64 else .unsigned 64) negative magnitude

/-- The text has the form of a number with optional fraction and exponent. -/
def isFloat (cs : List Char) : Bool :=
  let magnitude := (splitSign cs).2
  let whole := magnitude.takeWhile Char.isDigit
  let tail := magnitude.dropWhile Char.isDigit
  let (fraction, tail) :=
    match tail with
    | '.' :: rest => (rest.takeWhile Char.isDigit, rest.dropWhile Char.isDigit)
    | _ => ([], tail)
  let exponentFits :=
    match tail with
    | [] => true
    | c :: rest =>
      let digits := (splitSign rest).2
      (c = 'e' || c = 'E') && !digits.isEmpty && digits.all Char.isDigit
  !(whole.isEmpty && fraction.isEmpty) && exponentFits

/-- The underscores of a number stand behind a digit or an exponent mark; without them. -/
def dropUnderscores? : Bool → List Char → Option (List Char)
  | _, [] => some []
  | allowed, c :: rest =>
    if c = '_' then if allowed then dropUnderscores? allowed rest else none
    else
      let allowed := c.isDigit || c = 'e' || c = 'E' || (allowed && c ≠ '.')
      (dropUnderscores? allowed rest).map (c :: ·)

def floatWords : List String :=
  ["inf", "+inf", "-inf", "NaN", "+NaN", "-NaN"].flatMap fun w => [w, w ++ "f32", w ++ "f64"]

/-- The text behind a number with fraction or exponent. -/
def afterFloat? (cs : List Char) : Option (List Char) :=
  match floatWords.find? (isWord · cs) with
  | some word => some (cs.drop word.length)
  | none => do
    let digits ← dropUnderscores? false (cs.takeWhile isFloatChar)
    let rest := cs.dropWhile isFloatChar
    if !isFloat digits then failure
    return if isWord "f32" rest || isWord "f64" rest then rest.drop 3 else rest

/-- More characters fit a number with fraction or exponent than an integer. -/
def looksLikeFloat (cs : List Char) : Bool :=
  let magnitude := (splitSign cs).2
  (magnitude.takeWhile isIntegerChar).length < (magnitude.takeWhile isFloatChar).length

/-- Skips a number. What is no integer may still be read as another number, if that takes it at
least as far. -/
def skipNumber : Scan Unit := fun cs =>
  let fallBack (reached : List Char) : Option (Unit × List Char) := do
    let rest ← afterFloat? cs
    if rest.length ≤ reached.length then return ((), rest) else failure
  if looksLikeFloat cs then (afterFloat? cs).map ((), ·)
  else
    match readInteger cs with
    | .value _ rest => some ((), rest)
    | .misfit rest => fallBack rest
    | .tooLarge rest => fallBack rest

end Runboard.Ron
