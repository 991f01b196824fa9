namespace Runboard.Number

/-- A finite number of 64-bit binary floating point. Zero keeps its sign. -/
structure Binary where
  negative : Bool
  mantissa : Nat
  exponent : Int
deriving DecidableEq, Repr, Inhabited

namespace Binary

/-- Number of bits of a full mantissa. -/
def precision : Nat := 53

/-- The least mantissa with all its bits, `2 ^ 52`. -/
def leastMantissa : Nat := 0x10000000000000

/-- Exponent of the least significant bit that can be represented. -/
def leastExponent : Int := -1074

/-- Exponent of the last mantissa bit of the largest numbers. -/
def greatestExponent : Int := 971

def zero : Binary := ⟨false, 0, leastExponent⟩

/-- The quotient rounded to a natural number; a half goes to the even neighbour. -/
def roundQuotient (num den : Nat) : Nat :=
  let quotient := num / den
  let remainder := num % den
  if den < 2 * remainder || (2 * remainder == den && quotient % 2 == 1) then quotient + 1
  else quotient

/-- The quotient of `num` and `den` scaled by `2 ^ (-exponent)`, as a fraction. -/
def unscale (num den : Nat) (exponent : Int) : Nat × Nat :=
  if 0 ≤ exponent then (num, den * Nat.pow 2 exponent.toNat)
  else (num * Nat.pow 2 (-exponent).toNat, den)

/-- Exponent at which `num / den` has a mantissa of full precision, but not below the least. -/
def exponentOf (num den : Nat) : Int :=
  let guess : Int := (num.log2 : Int) - den.log2 - 52
  let (n, d) := unscale num den guess
  max leastExponent (if n / d < leastMantissa then guess - 1 else guess)

/-- The magnitude nearest to `num / den`, or nothing if it is too large to be finite. -/
def round (num den : Nat) : Option Binary :=
  if num = 0 then some zero
  else
    let exponent := exponentOf num den
    let (n, d) := unscale num den exponent
    let mantissa := roundQuotient n d
    let (mantissa, exponent) :=
      if mantissa = 2 * leastMantissa then (leastMantissa, exponent + 1) else (mantissa, exponent)
    if greatestExponent < exponent then none else some ⟨false, mantissa, exponent⟩

def toFraction (x : Binary) : Nat × Nat :=
  if 0 ≤ x.exponent then (x.mantissa * Nat.pow 2 x.exponent.toNat, 1)
  else (x.mantissa, Nat.pow 2 (-x.exponent).toNat)

def ofNat (n : Nat) : Option Binary := round n 1

/-- Product of two magnitudes, rounded once. -/
def mul (x y : Binary) : Option Binary :=
  let (xn, xd) := x.toFraction
  let (yn, yd) := y.toFraction
  round (xn * yn) (xd * yd)

/-- Quotient of two magnitudes, rounded once. -/
def div (x y : Binary) : Option Binary :=
  let (xn, xd) := x.toFraction
  let (yn, yd) := y.toFraction
  round (xn * yd) (xd * yn)

/-- The magnitude nearest to a power of ten. -/
def powerOfTen (k : Nat) : Option Binary := round (Nat.pow 10 k) 1

/-- The magnitude nearest to `significand * 10 ^ exponent`. -/
def ofDecimal (significand : Nat) (exponent : Int) : Option Binary :=
  if 0 ≤ exponent then round (significand * Nat.pow 10 exponent.toNat) 1
  else round significand (Nat.pow 10 (-exponent).toNat)

def greatestPower : Nat := 308

/-- Scales a magnitude by a power of ten in steps of at most `10 ^ 308`, rounding after each
step; `steps` bounds their number. Nothing if the result is too large to be finite. -/
def scaleByTen : (steps : Nat) → Binary → Int → Option Binary
  | 0, x, _ => some x
  | steps + 1, x, exponent =>
    if exponent.natAbs ≤ greatestPower then do
      let power ← powerOfTen exponent.natAbs
      if 0 ≤ exponent then x.mul power else x.div power
    else if x.mantissa = 0 then some x
    else if 0 ≤ exponent then none
    else do
      let power ← powerOfTen greatestPower
      scaleByTen steps (← x.div power) (exponent + greatestPower)

/-- The number written as `significand * 10 ^ exponent`, where the significand is rounded first
and then scaled. After three steps down every significand of 64 bits has become zero. -/
def ofParts (negative : Bool) (significand : Nat) (exponent : Int) : Option Binary := do
  let x ← scaleByTen 4 (← ofNat significand) exponent
  return { x with negative }

end Binary

end Runboard.Number
