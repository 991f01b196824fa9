import Runboard.Proofs.Json.Lexeme
import Runboard.Proofs.Number.Grid

set_option autoImplicit false

namespace Runboard.Number

/-! Digits. -/

/-- The first digit of a quotient is not zero if the point is where it is said to be. -/
theorem pow_pointOf_le {num den : Nat} (nonzero : 0 < num) (divides : 0 < den) :
    (10 : ℚ) ^ (pointOf num den - 1) * den ≤ num := by
  have digits (n : Nat) : 0 < (Nat.toDigits 10 n).length :=
    List.length_pos_iff.mpr Nat.toDigits_ne_nil
  unfold pointOf
  split
  · rename_i whole
    obtain ⟨length, counted⟩ := Nat.exists_eq_add_one_of_ne_zero (digits (num / den)).ne'
    have large : 10 ^ length ≤ num / den := by
      cases length with
      | zero => exact Nat.div_pos whole divides
      | succ length =>
          rw [← not_lt, ← Nat.length_toDigits_le_iff (by decide) (Nat.succ_pos length), counted]
          omega
    rw [counted, Nat.cast_add, Nat.cast_one, add_sub_cancel_right, zpow_natCast]
    exact_mod_cast (Nat.le_div_iff_mul_le divides).mp large
  · have small := (Nat.length_toDigits_le_iff (by decide) (digits ((den - 1) / num))).mp le_rfl
    generalize (Nat.toDigits 10 ((den - 1) / num)).length = length at small ⊢
    have bounded : den ≤ num * 10 ^ length := by
      have := (Nat.div_lt_iff_lt_mul nonzero).mp small
      rw [mul_comm]
      omega
    rw [sub_sub_cancel_left, zpow_neg, zpow_natCast, inv_mul_le_iff₀ (by positivity), mul_comm]
    exact_mod_cast bounded

theorem dropTrailingZeros_eq (digits : List Nat) :
    digits = (dropTrailingZeros digits).1 ++ List.replicate (dropTrailingZeros digits).2 0 := by
  have whole : digits = (digits.reverse.dropWhile (· == 0)).reverse ++
      (digits.reverse.takeWhile (· == 0)).reverse := by
    rw [← List.reverse_append, List.takeWhile_append_dropWhile, List.reverse_reverse]
  have zeros : (digits.reverse.takeWhile (· == 0)).reverse =
      List.replicate (digits.reverse.takeWhile (· == 0)).reverse.length 0 :=
    eq_replicate_of_all_zero (by simp)
  have count := congrArg List.length whole
  rw [List.length_append] at count
  have dropped : (dropTrailingZeros digits).2 =
      (digits.reverse.takeWhile (· == 0)).reverse.length := by
    simp only [dropTrailingZeros]
    omega
  rw [dropped, ← zeros]
  exact whole

theorem getLast?_dropTrailingZeros (digits : List Nat) :
    (dropTrailingZeros digits).1.getLast? ≠ some 0 := by
  have stops := List.head?_dropWhile_not (· == 0) digits.reverse
  rw [dropTrailingZeros, List.getLast?_reverse]
  intro zero
  rw [zero] at stops
  simp at stops

theorem head?_digitsOf {n : Nat} (positive : 0 < n) : (digitsOf n).head? ≠ some 0 := by
  obtain ⟨c, more, written, digit, _⟩ := Json.exists_toDigits n
  have first := Json.head_toDigits_ne_zero positive.ne' written
  rw [digitsOf, written, List.map_cons, List.head?_cons]
  intro zero
  have lower := (Char.isDigit_iff_toNat.mp digit).1
  have same : c.toNat = '0'.toNat :=
    Nat.le_antisymm (Nat.sub_eq_zero_iff_le.mp (Option.some.inj zero)) lower
  exact first (Char.toNat_inj.mp same)

/-! The search. -/

/-- Where the point of a number stands in front of its digits. -/
def Binary.point (x : Binary) : Int := pointOf x.toFraction.1 x.toFraction.2

theorem Binary.pow_point_le {x : Binary} (positive : 0 < x.mantissa) :
    (10 : ℚ) ^ (x.point - 1) ≤ x.magnitude := by
  obtain ⟨divides, fraction⟩ := x.toFraction_eq
  have cast : (0 : ℚ) < x.toFraction.2 := Nat.cast_pos.mpr divides
  have nonzero : 0 < x.toFraction.1 := by
    have := mul_pos (Binary.magnitude_pos positive) cast
    rw [← fraction] at this
    exact_mod_cast this
  have first := pow_pointOf_le nonzero divides
  rw [fraction] at first
  exact le_of_mul_le_mul_right first cast

theorem Binary.one_le_magnitude {x : Binary} (positive : 0 < x.mantissa)
    (whole : x.magnitude.den = 1) : 1 ≤ x.magnitude := by
  have nonzero := Binary.magnitude_pos positive
  rw [← (Rat.den_eq_one_iff _).mp whole] at nonzero ⊢
  exact_mod_cast nonzero

theorem Binary.one_le_point {x : Binary} (large : 1 ≤ x.magnitude) : 1 ≤ x.point := by
  obtain ⟨divides, fraction⟩ := x.toFraction_eq
  have whole : x.toFraction.2 ≤ x.toFraction.1 := by
    have scaled := mul_le_mul_of_nonneg_right large (Nat.cast_nonneg x.toFraction.2)
    rw [one_mul, ← fraction] at scaled
    exact_mod_cast scaled
  have digits : 0 < (Nat.toDigits 10 (x.toFraction.1 / x.toFraction.2)).length :=
    List.length_pos_iff.mpr Nat.toDigits_ne_nil
  rw [point, pointOf, if_pos whole]
  omega

/-- Eighteen digits are enough: the grid is then finer than a quarter of the spacing. -/
theorem gridPoint?_finest {x : Binary} (positive : 0 < x.mantissa)
    (double : x.mantissa < 2 ^ Binary.precision) : gridPoint? .up x (x.point - 18) ≠ none := by
  have step : (10 : ℚ) ^ (x.point - 18) < x.spacing / 4 := by
    have first := Binary.pow_point_le positive
    have shift : (10 : ℚ) ^ (x.point - 1) = 10 ^ (x.point - 18) * 10 ^ 17 := by
      rw [← zpow_natCast, ← zpow_add₀ (by norm_num)]
      congr 1
      omega
    have bound : x.magnitude < 2 ^ 53 * x.spacing := by
      apply mul_lt_mul_of_pos_right _ x.spacing_pos
      exact_mod_cast double
    have := x.spacing_pos
    -- because `4 * 2 ^ 53` is less than `10 ^ 17`
    rw [shift] at first
    linarith
  have measured := measured_onGrid positive (x.point - 18)
  have above := measured.lt_above
  push_cast at above
  exact gridPoint?_ne_none positive .up (by linarith) measured.below_le

/-- Whole numbers are points of the grid of the ones. -/
theorem gridPoint?_whole {x : Binary} (positive : 0 < x.mantissa) (whole : x.magnitude.den = 1) :
    gridPoint? .up x 0 ≠ none := by
  have integral := (Rat.den_eq_one_iff _).mp whole
  have nonneg : 0 ≤ x.magnitude.num := Rat.num_nonneg.mpr (Binary.magnitude_pos positive).le
  have same : (x.magnitude.num.toNat : ℚ) * 10 ^ (0 : Int) = x.magnitude := by
    rw [zpow_zero, mul_one, ← Int.cast_natCast, Int.toNat_of_nonneg nonneg, integral]
  exact gridPoint?_ne_none positive .up (by linarith [x.spacing_pos]) same.le

/-- What the search takes by either rule: a point of the first grid that has one. -/
structure Settled (x : Binary) (exponent : Int) (taken : Tie → Nat) : Prop where
  positive : 0 < x.mantissa
  search : ∀ tie, searchGrids tie x x.point 18 1 = (taken tie, exponent)
  found : ∀ tie, gridPoint? tie x exponent = some (taken tie)
  within : exponent ≤ x.point - 1
  first : ∀ coarser, exponent < coarser → coarser ≤ x.point - 1 →
    gridPoint? .up x coarser = none

theorem zero_or_settled {x : Binary} (double : x.mantissa < 2 ^ Binary.precision) :
    x.mantissa = 0 ∨ ∃ exponent taken, Settled x exponent taken := by
  rcases Nat.eq_zero_or_pos x.mantissa with zero | positive
  · exact Or.inl zero
  · right
    have reached : ∃ last < 18, gridPoint? .up x (x.point - (1 + last : Nat)) ≠ none :=
      ⟨17, by decide, gridPoint?_finest positive double⟩
    obtain ⟨exponent, within, taken, first⟩ := searchGrids_first reached
    exact ⟨exponent, fun tie => (searchGrids tie x x.point 18 1).1, positive,
      fun tie => Prod.ext rfl (taken tie).2, fun tie => (taken tie).1, within, first⟩

theorem shortest_of_zero {x : Binary} (zero : x.mantissa = 0) (tie : Tie) :
    shortest tie x = ⟨x.negative, [0], 1⟩ := by
  rw [shortest, if_pos zero]

theorem shortest_of_pos {x : Binary} (positive : 0 < x.mantissa) (tie : Tie) :
    shortest tie x =
      let taken := searchGrids tie x x.point 18 1
      let kept := dropTrailingZeros (digitsOf taken.1)
      ⟨x.negative, kept.1, taken.2 + kept.2 + kept.1.length⟩ := by
  rw [shortest, if_neg positive.ne']
  rfl

namespace Settled

variable {x : Binary} {exponent : Int} {taken : Tie → Nat} (settled : Settled x exponent taken)
include settled

theorem measured : Measured x exponent (onGrid x exponent).1 (onGrid x exponent).2 :=
  measured_onGrid settled.positive exponent

theorem admits (tie : Tie) : x.Admits (taken tie * 10 ^ exponent) :=
  (settled.measured.contains_iff _).mp (Neighbourhood.contains_of_nearest? (settled.found tie)).1

theorem taken_pos (tie : Tie) : 0 < taken tie := by
  have above := settled.measured.lt_above
  have least := (Neighbourhood.contains_of_nearest? (settled.found tie)).2
  have first : (10 : ℚ) ^ exponent ≤ x.magnitude :=
    (zpow_le_zpow_right₀ (by norm_num) settled.within).trans
      (Binary.pow_point_le settled.positive)
  have grid : (0 : ℚ) < 10 ^ exponent := zpow_pos (by norm_num) _
  have one := lt_of_mul_lt_mul_right ((one_mul _).trans_lt (first.trans_lt above)) grid.le
  have below : 1 < (onGrid x exponent).1.value / (onGrid x exponent).2 + 1 := by exact_mod_cast one
  omega

/-- The two rules differ only if the number is half-way between two points of the grid. -/
theorem ties : taken .even = taken .up ∨
    taken .up = taken .even + 1 ∧ taken .even % 2 = 0 ∧
      2 * x.magnitude = (2 * taken .even + 1) * 10 ^ exponent := by
  have measured := settled.measured
  have even : (onGrid x exponent).1.nearest? .even (onGrid x exponent).2 = some (taken .even) :=
    settled.found .even
  have up : (onGrid x exponent).1.nearest? .up (onGrid x exponent).2 = some (taken .up) :=
    settled.found .up
  rcases Neighbourhood.nearest?_ties (onGrid x exponent).1 measured.unit_pos with
    same | ⟨k, evenPoint, upPoint, parity, half⟩
  · left
    rw [even, up] at same
    exact Option.some.inj same
  · right
    obtain rfl := Option.some.inj (even.symm.trans evenPoint)
    refine ⟨Option.some.inj (up.symm.trans upPoint), parity, ?_⟩
    have unit : ((onGrid x exponent).2 : ℚ) ≠ 0 := Nat.cast_ne_zero.mpr measured.unit_pos.ne'
    have twice : (2 * (onGrid x exponent).1.value : ℚ) =
        (2 * taken .even + 1) * (onGrid x exponent).2 := by exact_mod_cast half
    apply mul_right_cancel₀ unit
    calc 2 * x.magnitude * (onGrid x exponent).2
      _ = 2 * ((onGrid x exponent).1.value * 10 ^ exponent) := by rw [measured.value, mul_assoc]
      _ = 2 * (onGrid x exponent).1.value * 10 ^ exponent := (mul_assoc ..).symm
      _ = (2 * taken .even + 1) * 10 ^ exponent * (onGrid x exponent).2 := by
        rw [twice, mul_right_comm]

/-- A whole number is taken for a whole number, and for no other. -/
theorem den_eq_one_iff (tie : Tie) :
    (taken tie * 10 ^ exponent : ℚ).den = 1 ↔ x.magnitude.den = 1 := by
  constructor
  · intro whole
    have near := (settled.admits tie).abs_sub_le
    rw [← (Rat.den_eq_one_iff _).mp whole] at near
    exact Binary.den_magnitude_of_near near
  · intro whole
    -- the grid of the ones would have been taken before a finer one
    have nonneg : 0 ≤ exponent := by
      by_contra negative
      have point := Binary.one_le_point (Binary.one_le_magnitude settled.positive whole)
      exact gridPoint?_whole settled.positive whole (settled.first 0 (by omega) (by omega))
    exact den_mul_pow_of_nonneg 10 (taken tie) nonneg

theorem value_shortest (tie : Tie) :
    (shortest tie x).value = signed x.negative (taken tie) * 10 ^ exponent := by
  have whole := congrArg valueOf (dropTrailingZeros_eq (digitsOf (taken tie)))
  rw [valueOf_digitsOf, valueOf_append, valueOf_replicate_zero, Nat.add_zero,
    List.length_replicate] at whole
  rw [shortest_of_pos settled.positive, settled.search tie, Decimal.value]
  dsimp only
  generalize dropTrailingZeros (digitsOf (taken tie)) = kept at whole ⊢
  rw [add_sub_cancel_right, zpow_add₀ (by norm_num), zpow_natCast, whole, signed_mul]
  push_cast
  ring

theorem normal_shortest (tie : Tie) : (shortest tie x).Normal := by
  have digits := dropTrailingZeros_eq (digitsOf (taken tie))
  have last := getLast?_dropTrailingZeros (digitsOf (taken tie))
  have first := head?_digitsOf (settled.taken_pos tie)
  have nonempty : (dropTrailingZeros (digitsOf (taken tie))).1 ≠ [] := by
    intro empty
    have zero := congrArg valueOf digits
    rw [empty, List.nil_append, valueOf_replicate_zero, valueOf_digitsOf] at zero
    exact (settled.taken_pos tie).ne' zero
  refine ⟨fun _ member => lt_of_mem_shortest member, ?_, ?_, ?_⟩
  all_goals rw [shortest_of_pos settled.positive, settled.search tie]
  · exact nonempty
  · intro zero
    rw [digits, List.head?_append_of_ne_nil _ nonempty] at first
    exact absurd zero first
  · intro zero
    exact absurd zero last

end Settled

/-! The decimal. -/

theorem den_signed_mul (negative : Bool) (n : Nat) (q : ℚ) :
    (signed negative n * q : ℚ).den = (n * q : ℚ).den := by
  cases negative with
  | true => simp [signed, Rat.neg_den]
  | false => simp [signed]

theorem abs_signed_mul_sub (negative : Bool) (n m : Nat) (q r : ℚ) :
    |(signed negative n * q - signed negative m * r : ℚ)| = |n * q - m * r| := by
  cases negative with
  | true => simp [signed, abs_sub_comm, ← sub_eq_neg_add]
  | false => simp [signed]

theorem negative_shortest (tie : Tie) (x : Binary) : (shortest tie x).negative = x.negative := by
  unfold shortest
  split <;> rfl

section Double

variable {x : Binary} (double : x.mantissa < 2 ^ Binary.precision)
include double

theorem normal_shortest (tie : Tie) : (shortest tie x).Normal := by
  rcases zero_or_settled double with zero | ⟨exponent, taken, settled⟩
  · rw [shortest_of_zero zero]
    exact ⟨by simp, by simp, fun _ => rfl, fun _ => rfl⟩
  · exact settled.normal_shortest tie

/-- Whole numbers have whole decimals, and no other number has. -/
theorem den_value_shortest (tie : Tie) :
    (shortest tie x).value.den = 1 ↔ x.value.den = 1 := by
  rcases zero_or_settled double with zero | ⟨exponent, taken, settled⟩
  · simp [shortest_of_zero zero, Decimal.value, Binary.value, zero]
  · rw [settled.value_shortest, Binary.value, den_signed_mul, den_signed_mul]
    exact settled.den_eq_one_iff tie

/-- The decimal is not further away than half the distance to the next number. -/
theorem abs_value_shortest_sub_le (tie : Tie) :
    |(shortest tie x).value - x.value| ≤ x.spacing / 2 := by
  rcases zero_or_settled double with zero | ⟨exponent, taken, settled⟩
  · have half : 0 ≤ x.spacing / 2 := by linarith [x.spacing_pos]
    simpa [shortest_of_zero zero, Decimal.value, Binary.value, zero] using half
  · rw [settled.value_shortest, Binary.value, abs_signed_mul_sub]
    exact (settled.admits tie).abs_sub_le

/-- The two rules for ties give the same decimal, unless the number is exactly half-way between
two decimals of which the one nearer to zero has an even last digit. -/
theorem value_shortest_ties :
    (shortest .up x).value = (shortest .even x).value ∨
      ∃ (k : Nat) (exponent : Int), k % 2 = 0 ∧
        (shortest .even x).value = signed x.negative k * 10 ^ exponent ∧
        (shortest .up x).value = signed x.negative (k + 1) * 10 ^ exponent ∧
        2 * x.value = signed x.negative (2 * k + 1) * 10 ^ exponent := by
  rcases zero_or_settled double with zero | ⟨exponent, taken, settled⟩
  · left
    rw [shortest_of_zero zero, shortest_of_zero zero]
  · rw [settled.value_shortest, settled.value_shortest]
    rcases settled.ties with same | ⟨next, even, half⟩
    · left
      rw [same]
    · right
      refine ⟨taken .even, exponent, even, rfl, by rw [next], ?_⟩
      rw [Binary.magnitude] at half
      rw [Binary.value]
      cases x.negative with
      | true =>
          simp only [signed, ↓reduceIte]
          push_cast
          linear_combination -half
      | false =>
          simp only [signed, Bool.false_eq_true, ↓reduceIte]
          push_cast
          linear_combination half

end Double

end Runboard.Number
