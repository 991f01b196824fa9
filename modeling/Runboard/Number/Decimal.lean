namespace Runboard.Number

/-- A signed decimal: the digits, each below ten and most significant first, with the decimal
point in front of them moved `point` places to the right. -/
structure Decimal where
  negative : Bool
  digits : List Nat
  point : Int
deriving DecidableEq, Repr, Inhabited

def digitChar (d : Nat) : Char := Char.ofNat ('0'.toNat + d)

/-- Decimal digits of a natural number, most significant first. -/
def digitsOf (n : Nat) : List Nat := (Nat.toDigits 10 n).map fun c => c.toNat - '0'.toNat

/-- The value of digits, most significant first. -/
def valueOf (digits : List Nat) : Nat := digits.foldl (fun n d => 10 * n + d) 0

def integerText (n : Int) : String :=
  let magnitude := String.ofList (Nat.toDigits 10 n.natAbs)
  if n < 0 then "-" ++ magnitude else magnitude

namespace Decimal

def isZero (d : Decimal) : Bool := d.digits.all (· == 0)

def split (d : Decimal) : List Nat × List Nat :=
  if d.point ≤ 0 then ([0], List.replicate (-d.point).toNat 0 ++ d.digits)
  else
    let whole := d.point.toNat
    if d.digits.length ≤ whole then
      (d.digits ++ List.replicate (whole - d.digits.length) 0, [])
    else (d.digits.take whole, d.digits.drop whole)

def sign (d : Decimal) : List Char := if d.negative then ['-'] else []

def digitChars (digits : List Nat) : List Char := digits.map digitChar

/-- Positional text without an exponent, and without a fraction if the number is whole. -/
def positional (d : Decimal) : String :=
  if d.isZero then String.ofList (d.sign ++ ['0'])
  else
    match d.split with
    | (whole, []) => String.ofList (d.sign ++ digitChars whole)
    | (whole, fraction) =>
      String.ofList (d.sign ++ digitChars whole ++ '.' :: digitChars fraction)

/-- Exponents of the leading digit that are written without an exponent mark. -/
def isPlain (exponent : Int) : Bool := -5 ≤ exponent && exponent ≤ 15

/-- Text with at least one digit after the point, or with a signed exponent mark if the leading
digit stands too far from the point. -/
def scientific (d : Decimal) : String :=
  if d.isZero then String.ofList (d.sign ++ ['0', '.', '0'])
  else
    let exponent := d.point - 1
    if isPlain exponent then
      match d.split with
      | (whole, []) => String.ofList (d.sign ++ digitChars whole ++ ['.', '0'])
      | (whole, fraction) =>
        String.ofList (d.sign ++ digitChars whole ++ '.' :: digitChars fraction)
    else
      let mark := if exponent < 0 then ['e', '-'] else ['e', '+']
      let power := Nat.toDigits 10 exponent.natAbs
      match d.digits with
      | [] => ""
      | [first] => String.ofList (d.sign ++ digitChar first :: (mark ++ power))
      | first :: rest =>
        String.ofList (d.sign ++ digitChar first :: '.' :: (digitChars rest ++ mark ++ power))

end Decimal

end Runboard.Number
