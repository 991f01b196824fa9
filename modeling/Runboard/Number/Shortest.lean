import Runboard.Number.Binary
import Runboard.Number.Decimal

/-!
The shortest decimal that reads back as a given binary number.

The decimals that round to a number fill an interval around it, which includes its ends exactly
if the mantissa is even. On the grid of one digit, of two digits and so on, the two grid points
next to the number are tried; the first grid with a point in the interval gives the digits, and
of two points the nearer one is taken.
-/

namespace Runboard.Number

/-- Which of two equally near decimals is taken. -/
inductive Tie
  /-- The one with an even last digit. -/
  | even
  /-- The larger one. -/
  | up
deriving DecidableEq, Repr

/-- The interval of reals that round to a magnitude, and the magnitude, over one denominator. -/
structure Neighbourhood where
  low : Nat
  value : Nat
  high : Nat
  denominator : Nat
  closed : Bool
deriving Repr

/-- Half the distance to the neighbours on both sides. The lower neighbour of a power of two is
only half as far away, unless the number has the least exponent. -/
def neighbourhood (x : Binary) : Neighbourhood :=
  let narrow := x.mantissa = Binary.leastMantissa ∧ x.exponent ≠ Binary.leastExponent
  let (scale, denominator) :=
    if 0 ≤ x.exponent then (Nat.pow 2 x.exponent.toNat, 4)
    else (1, 4 * Nat.pow 2 (-x.exponent).toNat)
  { low := (4 * x.mantissa - if narrow then 1 else 2) * scale
    value := 4 * x.mantissa * scale
    high := (4 * x.mantissa + 2) * scale
    denominator := denominator
    closed := x.mantissa % 2 = 0 }

namespace Neighbourhood

/-- The grid point `k * unit`, with `unit` over the same denominator, rounds to the number. -/
def contains (i : Neighbourhood) (point : Nat) : Bool :=
  if i.closed then i.low ≤ point && point ≤ i.high else i.low < point && point < i.high

/-- The multiple of `unit` in the interval that is nearest to the number. -/
def nearest? (i : Neighbourhood) (tie : Tie) (unit : Nat) : Option Nat :=
  let below := i.value / unit
  let above := below + 1
  let fitsBelow := i.contains (below * unit)
  let fitsAbove := i.contains (above * unit)
  if fitsBelow && fitsAbove then
    let down := i.value - below * unit
    let up := above * unit - i.value
    if down < up then some below
    else if up < down then some above
    else match tie with
      | .even => some (if below % 2 = 0 then below else above)
      | .up => some above
  else if fitsBelow then some below
  else if fitsAbove then some above
  else none

end Neighbourhood

/-- The number of decimal places of the whole part of `num / den`: the least `k` with
`num / den < 10 ^ k`, which is not positive for fractions below one. -/
def pointOf (num den : Nat) : Int :=
  if den ≤ num then ((Nat.toDigits 10 (num / den)).length : Int)
  else 1 - ((Nat.toDigits 10 ((den - 1) / num)).length : Int)

/-- Grids of `count`, then one more digit, and so on, for `tries` grids. Each grid multiplies the
interval by ten to a power, so that the unit is a power of ten over the denominator. -/
def searchGrids (tie : Tie) (x : Binary) (point : Int) : (tries count : Nat) → Nat × Int
  | 0, count => (0, point - count)
  | tries + 1, count =>
    let exponent : Int := point - count
    let i := neighbourhood x
    let (i, unit) :=
      if 0 ≤ exponent then (i, i.denominator * Nat.pow 10 exponent.toNat)
      else
        let scale := Nat.pow 10 (-exponent).toNat
        ({ i with low := i.low * scale, value := i.value * scale, high := i.high * scale },
          i.denominator)
    match i.nearest? tie unit with
    | some k => (k, exponent)
    | none => searchGrids tie x point tries (count + 1)

/-- Digits without the zeros at the end, and how many were dropped. -/
def dropTrailingZeros (digits : List Nat) : List Nat × Nat :=
  let kept := (digits.reverse.dropWhile (· == 0)).reverse
  (kept, digits.length - kept.length)

/-- The fewest digits that read back as the number; seventeen always suffice. -/
def shortest (tie : Tie) (x : Binary) : Decimal :=
  if x.mantissa = 0 then ⟨x.negative, [0], 1⟩
  else
    let (num, den) := x.toFraction
    let (k, exponent) := searchGrids tie x (pointOf num den) 18 1
    let (digits, dropped) := dropTrailingZeros (digitsOf k)
    ⟨x.negative, digits, exponent + dropped + digits.length⟩

end Runboard.Number
