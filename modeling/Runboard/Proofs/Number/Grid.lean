import Mathlib.Tactic.LinearCombination
import Runboard.Number.Shortest
import Runboard.Proofs.Number.Layout

set_option autoImplicit false

/-!
Decimal grids around a binary number.

The interval in which the search looks for a grid point is measured in natural numbers. Here it is
compared with the rational numbers that it stands for: those that round to the binary number. On
each grid one of the two points next to the number is taken if it is among them, so that the rule
for ties matters only where the number is exactly half-way between two points; and the search
ends at the first grid that has such a point, whatever the rule.
-/

namespace Runboard.Number

theorem cast_pow_of_nonneg (base : Nat) {e : Int} (nonneg : 0 ≤ e) :
    ((Nat.pow base e.toNat : Nat) : ℚ) = (base : ℚ) ^ e := by
  rw [Nat.pow_eq, Nat.cast_pow, ← zpow_natCast, Int.toNat_of_nonneg nonneg]

theorem cast_pow_of_neg (base : Nat) (positive : base ≠ 0) {e : Int} (negative : ¬ 0 ≤ e) :
    ((Nat.pow base (-e).toNat : Nat) : ℚ) * (base : ℚ) ^ e = 1 := by
  rw [Nat.pow_eq, Nat.cast_pow, ← zpow_natCast, Int.toNat_of_nonneg (by omega),
    ← zpow_add₀ (by exact_mod_cast positive), neg_add_cancel, zpow_zero]

theorem den_mul_pow_of_nonneg (base n : Nat) {e : Int} (nonneg : 0 ≤ e) :
    ((n : ℚ) * (base : ℚ) ^ e).den = 1 := by
  rw [← cast_pow_of_nonneg base nonneg, ← Nat.cast_mul, Rat.den_natCast]

namespace Binary

/-- The value of the last bit of the mantissa. -/
def spacing (x : Binary) : ℚ := 2 ^ x.exponent

def magnitude (x : Binary) : ℚ := x.mantissa * x.spacing

def value (x : Binary) : ℚ := signed x.negative x.mantissa * x.spacing

theorem spacing_pos (x : Binary) : 0 < x.spacing := zpow_pos (by norm_num) _

theorem magnitude_pos {x : Binary} (positive : 0 < x.mantissa) : 0 < x.magnitude :=
  mul_pos (Nat.cast_pos.mpr positive) x.spacing_pos

/-- Lower end of the numbers that round to the magnitude. -/
def lowest (x : Binary) : ℚ :=
  x.magnitude - x.spacing *
    if x.mantissa = leastMantissa ∧ x.exponent ≠ leastExponent then 1 / 4 else 1 / 2

def highest (x : Binary) : ℚ := x.magnitude + x.spacing / 2

/-- A number that rounds to the magnitude; at either end it does so for an even mantissa. -/
def Admits (x : Binary) (q : ℚ) : Prop :=
  if x.mantissa % 2 = 0 then x.lowest ≤ q ∧ q ≤ x.highest else x.lowest < q ∧ q < x.highest

theorem Admits.abs_sub_le {x : Binary} {q : ℚ} (admits : x.Admits q) :
    |q - x.magnitude| ≤ x.spacing / 2 := by
  have positive := x.spacing_pos
  have ends : x.lowest ≤ q ∧ q ≤ x.highest := by
    unfold Admits at admits
    split at admits
    · exact admits
    · exact ⟨admits.1.le, admits.2.le⟩
  have quarter : x.magnitude - x.spacing / 2 ≤ x.lowest := by
    unfold lowest
    split <;> linarith
  have upper := ends.2
  unfold highest at upper
  rw [abs_le]
  constructor <;> linarith

theorem admits_of_lt {x : Binary} {q : ℚ} (low : x.magnitude - x.spacing / 4 < q)
    (high : q ≤ x.magnitude) : x.Admits q := by
  have positive := x.spacing_pos
  have above : x.lowest < q := by
    unfold lowest
    split <;> linarith
  have below : q < x.highest := by
    unfold highest
    linarith
  unfold Admits
  split
  · exact ⟨above.le, below.le⟩
  · exact ⟨above, below⟩

/-- A number that is next to a whole number is whole itself: below the point both are multiples of
the spacing, so that they are equal or further apart. -/
theorem den_magnitude_of_near {x : Binary} {n : Int}
    (near : |n - x.magnitude| ≤ x.spacing / 2) : x.magnitude.den = 1 := by
  by_cases nonneg : 0 ≤ x.exponent
  · exact den_mul_pow_of_nonneg 2 x.mantissa nonneg
  · have cancel : ((Nat.pow 2 (-x.exponent).toNat : Nat) : ℚ) * x.spacing = 1 :=
      cast_pow_of_neg 2 (by decide) nonneg
    generalize Nat.pow 2 (-x.exponent).toNat = parts at cancel
    have scaled : (n - x.magnitude) * parts = (n * parts - x.mantissa : Int) := by
      rw [magnitude]
      push_cast
      linear_combination -(x.mantissa : ℚ) * cancel
    obtain ⟨lower, upper⟩ := abs_le.mp near
    have low := mul_le_mul_of_nonneg_right lower (Nat.cast_nonneg parts)
    have high := mul_le_mul_of_nonneg_right upper (Nat.cast_nonneg parts)
    rw [scaled] at low high
    have least : -1 ≤ 2 * (n * parts - x.mantissa) := by
      have : (-1 : ℚ) ≤ 2 * (n * parts - x.mantissa : Int) := by linarith
      exact_mod_cast this
    have most : 2 * (n * parts - x.mantissa) ≤ 1 := by
      have : 2 * ((n * parts - x.mantissa : Int) : ℚ) ≤ 1 := by linarith
      exact_mod_cast this
    have equal : n * parts - x.mantissa = 0 := by omega
    have nonzero : (parts : ℚ) ≠ 0 := left_ne_zero_of_mul_eq_one cancel
    rw [equal, Int.cast_zero] at scaled
    have same := (mul_eq_zero.mp scaled).resolve_right nonzero
    rw [← sub_eq_zero.mp same, Rat.den_intCast]

theorem toFraction_eq (x : Binary) :
    0 < x.toFraction.2 ∧ (x.toFraction.1 : ℚ) = x.magnitude * x.toFraction.2 := by
  unfold toFraction magnitude spacing
  split
  · rename_i nonneg
    refine ⟨Nat.one_pos, ?_⟩
    push_cast [cast_pow_of_nonneg 2 nonneg]
    ring
  · rename_i negative
    refine ⟨Nat.pow_pos (by decide), ?_⟩
    have cancel := cast_pow_of_neg 2 (by decide) negative
    push_cast at cancel ⊢
    rw [mul_assoc, mul_comm (2 ^ x.exponent), cancel, mul_one]

end Binary

/-! Grids. -/

/-- The neighbourhood of a number on the grid of the multiples of `10 ^ exponent`, with the
distance of two grid points. -/
def onGrid (x : Binary) (exponent : Int) : Neighbourhood × Nat :=
  let i := neighbourhood x
  if 0 ≤ exponent then (i, i.denominator * Nat.pow 10 exponent.toNat)
  else
    let scale := Nat.pow 10 (-exponent).toNat
    ({ i with low := i.low * scale, value := i.value * scale, high := i.high * scale },
      i.denominator)

/-- The grid point that stands for a number. -/
def gridPoint? (tie : Tie) (x : Binary) (exponent : Int) : Option Nat :=
  (onGrid x exponent).1.nearest? tie (onGrid x exponent).2

theorem searchGrids_succ (tie : Tie) (x : Binary) (point : Int) (tries count : Nat) :
    searchGrids tie x point (tries + 1) count =
      match gridPoint? tie x (point - count) with
      | some k => (k, point - count)
      | none => searchGrids tie x point tries (count + 1) := rfl

/-- All lengths are measured so that `unit` of them make up `10 ^ exponent`. -/
structure Measured (x : Binary) (exponent : Int) (i : Neighbourhood) (unit : Nat) : Prop where
  unit_pos : 0 < unit
  low : (i.low : ℚ) * 10 ^ exponent = x.lowest * unit
  value : (i.value : ℚ) * 10 ^ exponent = x.magnitude * unit
  high : (i.high : ℚ) * 10 ^ exponent = x.highest * unit
  closed : i.closed = decide (x.mantissa % 2 = 0)

theorem measured_neighbourhood {x : Binary} (positive : 0 < x.mantissa) :
    Measured x 0 (neighbourhood x) (neighbourhood x).denominator := by
  let narrow := x.mantissa = Binary.leastMantissa ∧ x.exponent ≠ Binary.leastExponent
  have lower : ((4 * x.mantissa - (if narrow then 1 else 2) : Nat) : ℚ) =
      4 * (x.mantissa - if narrow then 1 / 4 else 1 / 2) := by
    split
    · rw [Nat.cast_sub (by omega)]
      push_cast
      ring
    · rw [Nat.cast_sub (by omega)]
      push_cast
      ring
  -- a quarter of the spacing is `scale` of the lengths
  have measured (scale denominator : Nat) (divides : 0 < denominator)
      (quarter : (4 * scale : ℚ) = x.spacing * denominator) :
      Measured x 0 ⟨(4 * x.mantissa - if narrow then 1 else 2) * scale, 4 * x.mantissa * scale,
        (4 * x.mantissa + 2) * scale, denominator, decide (x.mantissa % 2 = 0)⟩ denominator := by
    refine ⟨divides, ?_, ?_, ?_, rfl⟩
    · rw [Nat.cast_mul, lower, zpow_zero, mul_one, Binary.lowest, Binary.magnitude]
      linear_combination (x.mantissa - if narrow then 1 / 4 else 1 / 2 : ℚ) * quarter
    · rw [Nat.cast_mul, zpow_zero, mul_one, Binary.magnitude]
      push_cast
      linear_combination (x.mantissa : ℚ) * quarter
    · rw [Nat.cast_mul, zpow_zero, mul_one, Binary.highest, Binary.magnitude]
      push_cast
      linear_combination (x.mantissa + 1 / 2 : ℚ) * quarter
  unfold neighbourhood
  by_cases nonneg : 0 ≤ x.exponent
  · simp only [nonneg, ↓reduceIte]
    apply measured
    · decide
    · rw [cast_pow_of_nonneg 2 nonneg, Binary.spacing]
      push_cast
      ring
  · simp only [nonneg, ↓reduceIte]
    apply measured
    · exact Nat.mul_pos (by decide) (Nat.pow_pos (by decide))
    · have cancel := cast_pow_of_neg 2 (by decide) nonneg
      rw [Binary.spacing]
      push_cast at cancel ⊢
      linear_combination -4 * cancel

theorem measured_onGrid {x : Binary} (positive : 0 < x.mantissa) (exponent : Int) :
    Measured x exponent (onGrid x exponent).1 (onGrid x exponent).2 := by
  obtain ⟨divides, low, value, high, closed⟩ := measured_neighbourhood positive
  rw [zpow_zero, mul_one] at low value high
  unfold onGrid
  dsimp only
  split
  · rename_i nonneg
    have power := cast_pow_of_nonneg 10 nonneg
    have rescaled {length : Nat} {q : ℚ} (same : (length : ℚ) = q * (neighbourhood x).denominator) :
        (length : ℚ) * 10 ^ exponent =
          q * ((neighbourhood x).denominator * Nat.pow 10 exponent.toNat : Nat) := by
      rw [Nat.cast_mul, power, same]
      push_cast
      ring
    exact ⟨Nat.mul_pos divides (Nat.pow_pos (by decide)), rescaled low, rescaled value,
      rescaled high, closed⟩
  · rename_i negative
    have cancel := cast_pow_of_neg 10 (by decide) negative
    have rescaled {length : Nat} {q : ℚ} (same : (length : ℚ) = q * (neighbourhood x).denominator) :
        ((length * Nat.pow 10 (-exponent).toNat : Nat) : ℚ) * 10 ^ exponent =
          q * (neighbourhood x).denominator := by
      push_cast at cancel ⊢
      rw [← same, mul_assoc, cancel, mul_one]
    exact ⟨divides, rescaled low, rescaled value, rescaled high, closed⟩

section Comparison

variable {length unit : Nat} {q : ℚ} {exponent : Int} (one : 0 < unit)
  (same : (length : ℚ) * 10 ^ exponent = q * unit) (k : Nat)
include one same

theorem length_le_iff : length ≤ k * unit ↔ q ≤ k * 10 ^ exponent := by
  have grid : (0 : ℚ) < 10 ^ exponent := zpow_pos (by norm_num) _
  have cast : (0 : ℚ) < unit := Nat.cast_pos.mpr one
  calc length ≤ k * unit
    _ ↔ (length : ℚ) ≤ k * unit := by exact_mod_cast Iff.rfl
    _ ↔ (length : ℚ) * 10 ^ exponent ≤ k * unit * 10 ^ exponent :=
        (mul_le_mul_iff_of_pos_right grid).symm
    _ ↔ q * unit ≤ k * 10 ^ exponent * unit := by rw [same, mul_right_comm]
    _ ↔ q ≤ k * 10 ^ exponent := mul_le_mul_iff_of_pos_right cast

theorem le_length_iff : k * unit ≤ length ↔ k * 10 ^ exponent ≤ q := by
  have grid : (0 : ℚ) < 10 ^ exponent := zpow_pos (by norm_num) _
  have cast : (0 : ℚ) < unit := Nat.cast_pos.mpr one
  calc k * unit ≤ length
    _ ↔ (k * unit : ℚ) ≤ length := by exact_mod_cast Iff.rfl
    _ ↔ (k * unit * 10 ^ exponent : ℚ) ≤ length * 10 ^ exponent :=
        (mul_le_mul_iff_of_pos_right grid).symm
    _ ↔ k * 10 ^ exponent * unit ≤ q * unit := by rw [same, mul_right_comm]
    _ ↔ k * 10 ^ exponent ≤ q := mul_le_mul_iff_of_pos_right cast

end Comparison

namespace Measured

variable {x : Binary} {exponent : Int} {i : Neighbourhood} {unit : Nat}
  (measured : Measured x exponent i unit)
include measured

/-- A point of the grid lies in the interval if it rounds to the number. -/
theorem contains_iff (k : Nat) :
    i.contains (k * unit) = true ↔ x.Admits (k * 10 ^ exponent) := by
  have low := length_le_iff measured.unit_pos measured.low k
  have low' := le_length_iff measured.unit_pos measured.low k
  have high := le_length_iff measured.unit_pos measured.high k
  have high' := length_le_iff measured.unit_pos measured.high k
  unfold Neighbourhood.contains Binary.Admits
  by_cases even : x.mantissa % 2 = 0
  · simp [measured.closed, even, low, high]
  · simp [measured.closed, even, ← not_le, low', high']

theorem below_le : ((i.value / unit : Nat) : ℚ) * 10 ^ exponent ≤ x.magnitude :=
  (le_length_iff measured.unit_pos measured.value _).mp (Nat.div_mul_le_self i.value unit)

theorem lt_above : x.magnitude < ((i.value / unit + 1 : Nat) : ℚ) * 10 ^ exponent := by
  have beyond : ¬ (i.value / unit + 1) * unit ≤ i.value :=
    Nat.not_le.mpr (Nat.lt_mul_of_div_lt (Nat.lt_succ_self _) measured.unit_pos)
  rw [le_length_iff measured.unit_pos measured.value] at beyond
  exact not_le.mp beyond

end Measured

namespace Neighbourhood

/-- There is a point to take if one of the two next to the number lies in the interval. -/
theorem nearest?_eq_none_iff (i : Neighbourhood) (tie : Tie) (unit : Nat) :
    i.nearest? tie unit = none ↔
      i.contains (i.value / unit * unit) = false ∧
        i.contains ((i.value / unit + 1) * unit) = false := by
  unfold nearest?
  dsimp only
  cases i.contains (i.value / unit * unit) <;> cases i.contains ((i.value / unit + 1) * unit)
  · simp
  · simp
  · simp
  · cases tie
    all_goals
      simp only [Bool.and_self, ↓reduceIte]
      repeat' split
      all_goals simp

theorem contains_of_nearest? {i : Neighbourhood} {tie : Tie} {unit k : Nat}
    (found : i.nearest? tie unit = some k) :
    i.contains (k * unit) = true ∧ i.value / unit ≤ k := by
  have below (fits : i.contains (i.value / unit * unit) = true) (same : i.value / unit = k) :
      i.contains (k * unit) = true ∧ i.value / unit ≤ k := ⟨same ▸ fits, same.le⟩
  have above (fits : i.contains ((i.value / unit + 1) * unit) = true)
      (same : i.value / unit + 1 = k) : i.contains (k * unit) = true ∧ i.value / unit ≤ k :=
    ⟨same ▸ fits, by omega⟩
  unfold nearest? at found
  dsimp only at found
  split at found
  · rename_i both
    obtain ⟨fitsBelow, fitsAbove⟩ := Bool.and_eq_true_iff.mp both
    split at found
    · exact below fitsBelow (Option.some.inj found)
    · split at found
      · exact above fitsAbove (Option.some.inj found)
      · cases tie with
        | even =>
            dsimp only at found
            split at found
            · exact below fitsBelow (Option.some.inj found)
            · exact above fitsAbove (Option.some.inj found)
        | up => exact above fitsAbove (Option.some.inj found)
  · split at found
    · rename_i fits
      exact below fits (Option.some.inj found)
    · split at found
      · rename_i fits
        exact above fits (Option.some.inj found)
      · cases found

/-- The two rules take different points only if the number is half-way between them. -/
theorem nearest?_ties (i : Neighbourhood) {unit : Nat} (positive : 0 < unit) :
    i.nearest? .even unit = i.nearest? .up unit ∨
      ∃ k, i.nearest? .even unit = some k ∧ i.nearest? .up unit = some (k + 1) ∧ k % 2 = 0 ∧
        2 * i.value = (2 * k + 1) * unit := by
  have low : i.value / unit * unit ≤ i.value := Nat.div_mul_le_self i.value unit
  have high : i.value < (i.value / unit + 1) * unit :=
    Nat.lt_mul_of_div_lt (Nat.lt_succ_self _) positive
  unfold nearest?
  dsimp only
  split
  · split
    · exact Or.inl rfl
    · split
      · exact Or.inl rfl
      · rename_i notDown notUp
        -- as far from one point as from the other
        split
        · rename_i even
          refine Or.inr ⟨i.value / unit, rfl, rfl, even, ?_⟩
          have next : (i.value / unit + 1) * unit = i.value / unit * unit + unit :=
            Nat.succ_mul (i.value / unit) unit
          have half : (2 * (i.value / unit) + 1) * unit = 2 * (i.value / unit * unit) + unit := by
            ring
          omega
        · exact Or.inl rfl
  · exact Or.inl rfl

end Neighbourhood

/-- Whether a grid has a point to take does not depend on the rule for ties. -/
theorem gridPoint?_eq_none_iff (tie other : Tie) (x : Binary) (exponent : Int) :
    gridPoint? tie x exponent = none ↔ gridPoint? other x exponent = none := by
  rw [gridPoint?, gridPoint?, Neighbourhood.nearest?_eq_none_iff,
    Neighbourhood.nearest?_eq_none_iff]

/-- A grid with a point a little below the number has one to take. -/
theorem gridPoint?_ne_none {x : Binary} (positive : 0 < x.mantissa) (tie : Tie) {exponent : Int}
    {k : Nat} (near : x.magnitude - x.spacing / 4 < k * 10 ^ exponent)
    (below : k * 10 ^ exponent ≤ x.magnitude) : gridPoint? tie x exponent ≠ none := by
  have measured := measured_onGrid positive exponent
  have grid : (0 : ℚ) < 10 ^ exponent := zpow_pos (by norm_num) _
  have least : k ≤ (onGrid x exponent).1.value / (onGrid x exponent).2 := by
    rw [Nat.le_div_iff_mul_le measured.unit_pos]
    exact (le_length_iff measured.unit_pos measured.value k).mpr below
  have nearer := mul_le_mul_of_nonneg_right (Nat.cast_le.mpr least : (k : ℚ) ≤ _) grid.le
  have admits := Binary.admits_of_lt (near.trans_le nearer) measured.below_le
  rw [← measured.contains_iff] at admits
  rw [Ne, gridPoint?, Neighbourhood.nearest?_eq_none_iff, admits]
  intro empty
  exact Bool.noConfusion empty.1

/-- The first grid with a point is taken, whatever the rule for ties. -/
theorem searchGrids_first {x : Binary} {point : Int} {tries count : Nat}
    (reached : ∃ last < tries, gridPoint? .up x (point - (count + last : Nat)) ≠ none) :
    ∃ exponent ≤ point - count,
      (∀ tie, gridPoint? tie x exponent = some (searchGrids tie x point tries count).1 ∧
        (searchGrids tie x point tries count).2 = exponent) ∧
      ∀ coarser, exponent < coarser → coarser ≤ point - count →
        gridPoint? .up x coarser = none := by
  induction tries generalizing count with
  | zero =>
      obtain ⟨last, impossible, _⟩ := reached
      exact absurd impossible (Nat.not_lt_zero last)
  | succ tries ih =>
      cases here : gridPoint? .up x (point - count) with
      | some k =>
          refine ⟨point - count, le_refl _, ?_, fun coarser above within => by omega⟩
          intro tie
          -- the other rule finds a point here too, if perhaps the next one
          have fits : gridPoint? tie x (point - count) ≠ none := by
            rw [Ne, gridPoint?_eq_none_iff tie .up, here]
            exact Option.some_ne_none k
          obtain ⟨taken, found⟩ := Option.ne_none_iff_exists'.mp fits
          rw [searchGrids_succ, found]
          exact ⟨rfl, rfl⟩
      | none =>
          obtain ⟨last, within, fits⟩ := reached
          have later : ∃ last < tries,
              gridPoint? .up x (point - (count + 1 + last : Nat)) ≠ none := by
            cases last with
            | zero => exact absurd here fits
            | succ last => exact ⟨last, by omega, by rwa [Nat.add_right_comm]⟩
          obtain ⟨exponent, below, taken, first⟩ := ih later
          refine ⟨exponent, by omega, ?_, ?_⟩
          · intro tie
            rw [searchGrids_succ, (gridPoint?_eq_none_iff tie .up x _).mpr here]
            exact taken tie
          · intro coarser above within
            by_cases same : coarser = point - count
            · rwa [same]
            · exact first coarser above (by omega)

end Runboard.Number
