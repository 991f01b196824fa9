import Runboard.Number.Shortest
import Runboard.Text.Quoted
import Runboard.Yaml.Event

namespace Runboard.Yaml

inductive Meaning
  | nothing
  | bool (b : Bool)
  /-- An integer that fits 64 bits. -/
  | integer (n : Int)
  /-- An integer that fits 128 bits, with or without a sign. -/
  | wide (n : Int)
  | float (text : String)
  | text (s : String)
deriving DecidableEq, Repr

namespace Meaning

def isNothing (s : String) : Bool := ["null", "Null", "NULL", "~"].contains s

def bool? (s : String) : Option Bool :=
  if ["true", "True", "TRUE"].contains s then some true
  else if ["false", "False", "FALSE"].contains s then some false
  else none

/-- Several digits of which the first is a zero are no number. -/
def isDigitText (s : String) : Bool :=
  let cs := match s.toList with
    | '-' :: rest => rest
    | '+' :: rest => rest
    | cs => cs
  1 < cs.length && cs.head? == some '0' && cs.all Char.isDigit

def digit? (base : Nat) (c : Char) : Option Nat :=
  let value :=
    if c.isDigit then c.toNat - '0'.toNat
    else if 'a' ≤ c ∧ c ≤ 'f' then c.toNat - 'a'.toNat + 10
    else if 'A' ≤ c ∧ c ≤ 'F' then c.toNat - 'A'.toNat + 10
    else base
  if value < base then some value else none

/-- A number of one or more digits in a base. -/
def natural? (base : Nat) (cs : List Char) : Option Nat :=
  if cs.isEmpty then none else cs.foldlM (fun n c => do return n * base + (← digit? base c)) 0

def signed? (base : Nat) : List Char → Option Nat
  | '+' :: rest => natural? base rest
  | cs => natural? base cs

/-- The base that a mark names, and what follows the mark. -/
def basedDigits? : List Char → Option (Nat × List Char)
  | '0' :: 'x' :: rest => some (16, rest)
  | '0' :: 'o' :: rest => some (8, rest)
  | '0' :: 'b' :: rest => some (2, rest)
  | _ => none

/-- A number without a minus sign. Behind the mark of a base no sign may follow. -/
def unsigned? (s : String) : Option Nat :=
  let cs := match s.toList with
    | '+' :: rest => rest
    | cs => cs
  match basedDigits? cs with
  | some (base, digits) => natural? base digits
  | none => if isDigitText s then none else natural? 10 cs

def negative? (s : String) : Option Nat :=
  match s.toList with
  | '-' :: rest =>
    match basedDigits? rest with
    | some (base, digits) => natural? base digits
    | none => if isDigitText s then none else natural? 10 rest
  | _ => none

/-- An integer, if it fits 128 bits. -/
def integer? (s : String) : Option Meaning :=
  match unsigned? s with
  | some n =>
    if n < Nat.pow 2 64 then some (.integer n)
    else if n < Nat.pow 2 128 then some (.wide n)
    else none
  | none =>
    match negative? s with
    | some n =>
      if n ≤ Nat.pow 2 63 then some (.integer (-n))
      else if n ≤ Nat.pow 2 127 then some (.wide (-n))
      else none
    | none => none

/-- Decimal digits, a point and an exponent: the significand and its exponent. At least one digit
has to come before the exponent. -/
def decimal? (cs : List Char) : Option (Nat × Int) := do
  let whole := cs.takeWhile Char.isDigit
  let cs := cs.dropWhile Char.isDigit
  let (fraction, cs) := match cs with
    | '.' :: rest => (rest.takeWhile Char.isDigit, rest.dropWhile Char.isDigit)
    | cs => ([], cs)
  let significand ← natural? 10 (whole ++ fraction)
  let scale : Int := -fraction.length
  match cs with
  | [] => return (significand, scale)
  | mark :: rest =>
    if mark ≠ 'e' ∧ mark ≠ 'E' then none
    match rest with
    | '-' :: rest => return (significand, scale - (← natural? 10 rest))
    | rest => return (significand, scale + (← signed? 10 rest))

/-- Exponents beyond this make zero or infinity of every number that can be written out. -/
def exponentBound : Nat := 100000

/-- The text of a finite number, with at least one digit after the point. -/
def finiteText? (negative : Bool) (significand : Nat) (exponent : Int) : Option String := do
  if significand ≠ 0 ∧ (exponentBound : Int) < exponent then none
  let x ←
    if significand = 0 ∨ exponent < -(exponentBound : Int) then some Number.Binary.zero
    else Number.Binary.ofDecimal significand exponent
  let text := (Number.shortest .up { x with negative }).positional
  return if text.toList.contains '.' then text else text ++ ".0"

def float? (s : String) : Option String :=
  if [".inf", ".Inf", ".INF", "+.inf", "+.Inf", "+.INF"].contains s then some "inf"
  else if ["-.inf", "-.Inf", "-.INF"].contains s then some "-inf"
  else if [".nan", ".NaN", ".NAN"].contains s then some "NaN"
  else
    match s.toList with
    | '-' :: rest => do
      let (significand, exponent) ← decimal? rest
      finiteText? true significand exponent
    | '+' :: rest => do
      let (significand, exponent) ← decimal? rest
      finiteText? false significand exponent
    | cs => do
      let (significand, exponent) ← decimal? cs
      finiteText? false significand exponent

def ofPlain (s : String) : Meaning :=
  if s.isEmpty || isNothing s then .nothing
  else
    match bool? s with
    | some b => .bool b
    | none =>
      match integer? s with
      | some m => m
      | none =>
        if isDigitText s then .text s
        else
          match float? s with
          | some t => .float t
          | none => .text s

def describe : Meaning → String
  | .nothing => "unit value"
  | .bool b => "boolean `" ++ (if b then "true" else "false") ++ "`"
  | .integer n => "integer `" ++ Number.integerText n ++ "`"
  | .wide n =>
    "integer `" ++ Number.integerText n ++ (if n < 0 then "` as i128" else "` as u128")
  | .float t => "floating point `" ++ t ++ "`"
  | .text s => "string " ++ Text.quoted s

end Meaning

namespace Scalar

/-- The meaning of a scalar. A tag of the standard set asks for a particular one, and there is
none if the text does not have it. -/
def meaning? (s : Scalar) : Option Meaning :=
  match s.tag with
  | none => some (if s.style = .plain then .ofPlain s.text else .text s.text)
  | some tag =>
    if tag == "tag:yaml.org,2002:bool" then (Meaning.bool? s.text).map .bool
    else if tag == "tag:yaml.org,2002:int" then Meaning.integer? s.text
    else if tag == "tag:yaml.org,2002:float" then (Meaning.float? s.text).map .float
    else if tag == "tag:yaml.org,2002:null" then
      if Meaning.isNothing s.text then some .nothing else none
    else if tag.startsWith "!" && s.style = .plain then some (.ofPlain s.text)
    else some (.text s.text)

end Scalar

end Runboard.Yaml
