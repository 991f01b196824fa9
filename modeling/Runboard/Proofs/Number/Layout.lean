import Mathlib.Algebra.Order.Field.Power
import Mathlib.Algebra.Order.Field.Rat
import Mathlib.Data.List.Induction
import Mathlib.Data.Rat.Lemmas
import Mathlib.Tactic.FieldSimp
import Mathlib.Tactic.Linarith
import Mathlib.Tactic.Ring
import Runboard.Number.Decimal
import Runboard.Proofs.Text.Printed

set_option autoImplicit false

namespace Runboard.Number

/-! Values of digits. -/

theorem valueOf_append (front back : List Nat) :
    valueOf (front ++ back) = valueOf front * 10 ^ back.length + valueOf back := by
  induction back using List.reverseRecOn with
  | nil => simp [valueOf]
  | append_singleton back last ih =>
      have step (digits : List Nat) : valueOf (digits ++ [last]) = 10 * valueOf digits + last := by
        simp [valueOf]
      rw [← List.append_assoc, step, step, ih, List.length_append, List.length_singleton, pow_succ]
      ring

@[simp] theorem valueOf_replicate_zero (n : Nat) : valueOf (List.replicate n 0) = 0 := by
  induction n with
  | zero => rfl
  | succ n ih => rwa [List.replicate_succ, valueOf, List.foldl_cons]

@[simp] theorem valueOf_nil : valueOf [] = 0 := rfl

@[simp] theorem valueOf_singleton (digit : Nat) : valueOf [digit] = digit := by
  simp [valueOf]

@[simp] theorem valueOf_zero_cons (digits : List Nat) : valueOf (0 :: digits) = valueOf digits :=
  rfl

theorem valueOf_digitsOf (n : Nat) : valueOf (digitsOf n) = n := by
  rw [valueOf, digitsOf, List.foldl_map]
  exact Nat.ofDigitChars_ten_toDigits

theorem eq_replicate_of_all_zero {digits : List Nat} (zeros : digits.all (· == 0) = true) :
    digits = List.replicate digits.length 0 := by
  apply List.eq_replicate_of_mem
  intro digit member
  exact eq_of_beq (List.all_eq_true.mp zeros digit member)

/-- A magnitude with its sign. Zero loses it. -/
def signed (negative : Bool) (n : Nat) : Int := if negative then -n else n

@[simp] theorem signed_zero (negative : Bool) : signed negative 0 = 0 := by
  cases negative <;> rfl

theorem signed_mul (negative : Bool) (n k : Nat) :
    signed negative (n * k) = signed negative n * k := by
  cases negative <;> simp [signed]

theorem dvd_signed_iff {d : Nat} (negative : Bool) (n : Nat) :
    (d : Int) ∣ signed negative n ↔ d ∣ n := by
  cases negative <;> simp [signed, Int.natCast_dvd_natCast]

/-! Layouts and their texts. -/

/-- Digits before and behind the point, and the power of ten behind an exponent mark. -/
structure Layout where
  negative : Bool
  whole : List Nat
  fraction : List Nat
  power : Option Int
deriving DecidableEq, Repr

namespace Layout

def value (l : Layout) : ℚ :=
  signed l.negative (valueOf (l.whole ++ l.fraction)) *
    10 ^ (l.power.getD 0 - l.fraction.length)

def signChars (negative : Bool) : List Char := if negative then ['-'] else []

/-- A fraction has a point in front of it. -/
def fractionChars : List Nat → List Char
  | [] => []
  | first :: rest => '.' :: Decimal.digitChars (first :: rest)

/-- A power has a mark and a sign in front of it. -/
def powerChars : Option Int → List Char
  | none => []
  | some power =>
    (if power < 0 then ['e', '-'] else ['e', '+']) ++ Nat.toDigits 10 power.natAbs

def chars (l : Layout) : List Char :=
  signChars l.negative ++
    (Decimal.digitChars l.whole ++ (fractionChars l.fraction ++ powerChars l.power))

def text (l : Layout) : String := String.ofList l.chars

/-- There are digits before the point, and all digits are decimal. -/
structure Valid (l : Layout) : Prop where
  nonempty : l.whole ≠ []
  small : ∀ digit ∈ l.whole ++ l.fraction, digit < 10

/-! Reading. -/

def takeSign : List Char → Bool × List Char
  | '-' :: rest => (true, rest)
  | cs => (false, cs)

/-- Digits, as many as there are, and the text after them. -/
def takeDigits (cs : List Char) : List Nat × List Char :=
  ((cs.takeWhile Char.isDigit).map Json.digitValue, cs.dropWhile Char.isDigit)

/-- A point has digits behind it. -/
def takeFraction : List Char → Option (List Nat × List Char)
  | '.' :: rest => if (takeDigits rest).1.isEmpty then none else some (takeDigits rest)
  | cs => some ([], cs)

def readCount (cs : List Char) : Option Int :=
  if (takeDigits cs).1.isEmpty || !(takeDigits cs).2.isEmpty then none
  else some (valueOf (takeDigits cs).1)

/-- An exponent mark has a sign and digits behind it, and nothing comes after them. -/
def readPower : List Char → Option (Option Int)
  | [] => some none
  | 'e' :: '+' :: rest => (readCount rest).map fun count => some count
  | 'e' :: '-' :: rest => (readCount rest).map fun count => some (-count)
  | _ => none

def ofChars? (cs : List Char) : Option Layout := do
  let (negative, cs) := takeSign cs
  let (whole, cs) := takeDigits cs
  if whole.isEmpty then none
  else
    let (fraction, cs) ← takeFraction cs
    let power ← readPower cs
    return ⟨negative, whole, fraction, power⟩

/-- The number that a text denotes, if it is a decimal number in full. -/
def denoted? (text : String) : Option ℚ := (ofChars? text.toList).map value

theorem takeDigits_append {cs rest : List Char} (digits : ∀ c ∈ cs, c.isDigit = true)
    (ends : ∀ c ∈ rest.head?, c.isDigit = false) :
    takeDigits (cs ++ rest) = (cs.map Json.digitValue, rest) := by
  have stops : rest.takeWhile Char.isDigit = [] ∧ rest.dropWhile Char.isDigit = rest := by
    cases rest with
    | nil => exact ⟨rfl, rfl⟩
    | cons c rest => simp [ends c rfl]
  rw [takeDigits, List.takeWhile_append_of_pos digits, List.dropWhile_append_of_pos digits,
    stops.1, stops.2, List.append_nil]

theorem digitChar_facts :
    ∀ digit < 10, (digitChar digit).isDigit = true ∧ Json.digitValue (digitChar digit) = digit := by
  decide

theorem takeDigits_digitChars {digits : List Nat} (small : ∀ digit ∈ digits, digit < 10)
    {rest : List Char} (ends : ∀ c ∈ rest.head?, c.isDigit = false) :
    takeDigits (Decimal.digitChars digits ++ rest) = (digits, rest) := by
  have figures : ∀ c ∈ Decimal.digitChars digits, c.isDigit = true := by
    intro c member
    obtain ⟨digit, listed, rfl⟩ := List.mem_map.mp member
    exact (digitChar_facts digit (small digit listed)).1
  have back : (Decimal.digitChars digits).map Json.digitValue = digits := by
    rw [Decimal.digitChars, List.map_map]
    exact (List.map_congr_left fun digit listed =>
      (digitChar_facts digit (small digit listed)).2).trans (List.map_id digits)
  rw [takeDigits_append figures ends, back]

theorem readCount_toDigits (n : Nat) : readCount (Nat.toDigits 10 n) = some (n : Int) := by
  have figures : ∀ c ∈ Nat.toDigits 10 n, c.isDigit = true := fun c member =>
    Nat.isDigit_of_mem_toDigits (by decide) (Nat.le_refl 10) member
  have taken := @takeDigits_append _ [] figures (by simp)
  rw [List.append_nil] at taken
  have some : (digitsOf n).isEmpty = false := by
    simp [digitsOf, Nat.toDigits_ne_nil]
  have same : (Nat.toDigits 10 n).map Json.digitValue = digitsOf n := rfl
  simp [readCount, taken, same, some, valueOf_digitsOf]

theorem readPower_powerChars (power : Option Int) : readPower (powerChars power) = some power := by
  cases power with
  | none => rfl
  | some power =>
      by_cases negative : power < 0
      · have count : -(power.natAbs : Int) = power := by omega
        rw [powerChars, if_pos negative, List.cons_append, List.cons_append, List.nil_append,
          readPower, readCount_toDigits, Option.map_some, count]
      · have count : (power.natAbs : Int) = power := by omega
        rw [powerChars, if_neg negative, List.cons_append, List.cons_append, List.nil_append,
          readPower, readCount_toDigits, Option.map_some, count]

theorem head?_powerChars (power : Option Int) :
    ∀ c ∈ (powerChars power).head?, c.isDigit = false ∧ c ≠ '.' := by
  cases power with
  | none => simp [powerChars]
  | some power => by_cases negative : power < 0 <;> simp [powerChars, negative]

theorem takeFraction_append {digits : List Nat} (small : ∀ digit ∈ digits, digit < 10)
    (power : Option Int) :
    takeFraction (fractionChars digits ++ powerChars power) = some (digits, powerChars power) := by
  have ends := head?_powerChars power
  cases digits with
  | nil =>
      rw [fractionChars, List.nil_append, takeFraction]
      intro rest starts
      exact (ends '.' (by rw [starts]; rfl)).2 rfl
  | cons first more =>
      have taken := takeDigits_digitChars small fun c member => (ends c member).1
      simp [fractionChars, takeFraction, taken]

theorem head?_fractionChars (digits : List Nat) (power : Option Int) :
    ∀ c ∈ (fractionChars digits ++ powerChars power).head?, c.isDigit = false := by
  cases digits with
  | nil => exact fun c member => (head?_powerChars power c member).1
  | cons first more => simp [fractionChars]

theorem takeSign_append (negative : Bool) {cs : List Char} (ends : ∀ c ∈ cs.head?, c ≠ '-') :
    takeSign (signChars negative ++ cs) = (negative, cs) := by
  cases negative with
  | true => rfl
  | false =>
      rw [signChars, if_neg Bool.false_ne_true, List.nil_append, takeSign]
      intro rest starts
      exact ends '-' (by rw [starts]; rfl) rfl

/-- What is laid out can be read back. -/
theorem Valid.ofChars?_chars {l : Layout} (valid : l.Valid) : ofChars? l.chars = some l := by
  obtain ⟨wholeSmall, fractionSmall⟩ := List.forall_mem_append.mp valid.small
  obtain ⟨first, rest, whole⟩ := List.exists_cons_of_ne_nil valid.nonempty
  have unsigned : ∀ c ∈ (Decimal.digitChars l.whole ++
      (fractionChars l.fraction ++ powerChars l.power)).head?, c ≠ '-' := by
    intro c member
    have digit := (digitChar_facts first (wholeSmall first (by simp [whole]))).1
    simp only [whole, Decimal.digitChars, List.map_cons, List.cons_append, List.head?_cons,
      Option.mem_some_iff] at member
    rintro rfl
    rw [member] at digit
    exact absurd digit (by decide)
  have sign := takeSign_append l.negative unsigned
  have digits := takeDigits_digitChars wholeSmall (head?_fractionChars l.fraction l.power)
  have fraction := takeFraction_append fractionSmall l.power
  have started : l.whole.isEmpty = false := by rw [whole, List.isEmpty_cons]
  simp only [ofChars?, chars, sign, digits, started, Bool.false_eq_true, ↓reduceIte, fraction,
    Option.bind_eq_bind, Option.bind_some, readPower_powerChars, Option.pure_def]

theorem Valid.denoted?_text {l : Layout} (valid : l.Valid) : denoted? l.text = some l.value := by
  rw [denoted?, text, String.toList_ofList, valid.ofChars?_chars, Option.map_some]

theorem text_unmarked (negative : Bool) (whole : List Nat) :
    text ⟨negative, whole, [], none⟩ =
      String.ofList (signChars negative ++ Decimal.digitChars whole) := by
  simp [text, chars, fractionChars, powerChars]

theorem text_unmarked_of_ne_nil (negative : Bool) (whole : List Nat) {fraction : List Nat}
    (nonempty : fraction ≠ []) :
    text ⟨negative, whole, fraction, none⟩ = String.ofList
      (signChars negative ++ Decimal.digitChars whole ++ '.' :: Decimal.digitChars fraction) := by
  obtain ⟨first, rest, rfl⟩ := List.exists_cons_of_ne_nil nonempty
  simp [text, chars, fractionChars, powerChars]

/-- Without an exponent mark, a superfluous zero in front or a zero at the end of the fraction. -/
structure Plain (l : Layout) : Prop extends l.Valid where
  unmarked : l.power = none
  leading : l.whole.head? = some 0 → l.whole = [0]
  trailing : l.fraction.getLast? ≠ some 0

/-- Only whole numbers are written without a fraction, and all of them are. -/
theorem Plain.fraction_eq_nil_iff {l : Layout} (plain : l.Plain) :
    l.fraction = [] ↔ l.value.den = 1 := by
  constructor
  · intro empty
    have whole : l.value = signed l.negative (valueOf l.whole) := by
      simp [value, empty, plain.unmarked]
    rw [whole, Rat.den_intCast]
  · intro integral
    by_contra nonempty
    obtain ⟨front, last, split⟩ := List.eq_nil_or_concat' l.fraction |>.resolve_left nonempty
    have nonzero : last ≠ 0 := by
      rintro rfl
      exact plain.trailing (by rw [split, List.getLast?_concat])
    have small : last < 10 := plain.small last (by simp [split])
    have digits : valueOf (l.whole ++ l.fraction) = valueOf (l.whole ++ front) * 10 + last := by
      rw [split, ← List.append_assoc, valueOf_append, List.length_singleton, pow_one,
        valueOf_singleton]
    have scaled : (signed l.negative (valueOf (l.whole ++ l.fraction)) : ℚ) =
        (l.value.num * 10 ^ l.fraction.length : Int) := by
      have same : (l.value.num : ℚ) = l.value := (Rat.den_eq_one_iff _).mp integral
      push_cast
      rw [same, value, plain.unmarked, Option.getD_none, zero_sub, zpow_neg, zpow_natCast]
      field_simp
    -- a number of tenths, hundredths and so on is whole only if its last digit is zero
    have divides : 10 ∣ valueOf (l.whole ++ l.fraction) := by
      rw [← dvd_signed_iff l.negative, Int.cast_injective scaled]
      exact (dvd_pow_self 10 (by simpa using nonempty)).mul_left _
    omega

end Layout

/-! The two ways of writing a decimal. -/

namespace Decimal

def value (d : Decimal) : ℚ :=
  signed d.negative (valueOf d.digits) * 10 ^ (d.point - d.digits.length)

/-- Decimal digits without a zero at either end, or zero alone. -/
structure Normal (d : Decimal) : Prop where
  small : ∀ digit ∈ d.digits, digit < 10
  nonempty : d.digits ≠ []
  leading : d.digits.head? = some 0 → d.digits = [0]
  trailing : d.digits.getLast? = some 0 → d.digits = [0]

def plainLayout (d : Decimal) : Layout :=
  if d.isZero then ⟨d.negative, [0], [], none⟩ else ⟨d.negative, d.split.1, d.split.2, none⟩

/-- The layout with an exponent mark where one is used. -/
def markedLayout (d : Decimal) : Layout :=
  if d.isZero then ⟨d.negative, [0], [0], none⟩
  else if isPlain (d.point - 1) then
    ⟨d.negative, d.split.1, if d.split.2 = [] then [0] else d.split.2, none⟩
  else ⟨d.negative, d.digits.take 1, d.digits.drop 1, some (d.point - 1)⟩

theorem positional_eq_text (d : Decimal) : d.positional = d.plainLayout.text := by
  unfold positional plainLayout
  split
  · rfl
  · split
    · rename_i whole parts
      rw [parts, Layout.text_unmarked]
      rfl
    · rename_i whole fraction nonempty parts
      rw [parts, Layout.text_unmarked_of_ne_nil _ _ nonempty]
      rfl

theorem scientific_eq_text {d : Decimal} (nonempty : d.digits ≠ []) :
    d.scientific = d.markedLayout.text := by
  unfold scientific markedLayout
  split
  · rfl
  · dsimp only
    split
    · split
      · rename_i whole parts
        rw [parts, if_pos rfl, Layout.text_unmarked_of_ne_nil _ _ (List.cons_ne_nil 0 [])]
        rfl
      · rename_i whole fraction nonempty parts
        rw [parts, if_neg nonempty, Layout.text_unmarked_of_ne_nil _ _ nonempty]
        rfl
    · split
      · contradiction
      · rename_i first digits
        rw [digits]
        rfl
      · rename_i first rest more digits
        obtain ⟨second, rest, rfl⟩ := List.exists_cons_of_ne_nil more
        rw [digits, List.append_assoc]
        rfl

/-- Zeros on either side of the digits move the point and nothing else. -/
theorem value_split (d : Decimal) (negative : Bool) :
    (signed negative (valueOf (d.split.1 ++ d.split.2)) : ℚ) * 10 ^ (-d.split.2.length : Int) =
      signed negative (valueOf d.digits) * 10 ^ (d.point - d.digits.length) := by
  unfold split
  split
  · rename_i low
    have length : (-((List.replicate (-d.point).toNat 0 ++ d.digits).length : Int)) =
        d.point - d.digits.length := by
      rw [List.length_append, List.length_replicate]
      omega
    rw [length]
    simp [valueOf_append]
  · dsimp only
    split
    · rename_i high long
      have length : d.point - d.digits.length =
          ((d.point.toNat - d.digits.length : Nat) : Int) := by
        omega
      rw [length, zpow_natCast]
      simp [valueOf_append, signed_mul]
    · rename_i high short
      have length : (-((d.digits.drop d.point.toNat).length : Int)) =
          d.point - d.digits.length := by
        rw [List.length_drop]
        omega
      rw [List.take_append_drop, length]

theorem valueOf_of_isZero {d : Decimal} (zero : d.isZero = true) : valueOf d.digits = 0 := by
  rw [eq_replicate_of_all_zero zero, valueOf_replicate_zero]

theorem value_plainLayout (d : Decimal) : d.plainLayout.value = d.value := by
  unfold plainLayout
  split
  · rename_i zero
    simp [Layout.value, value, valueOf_of_isZero zero]
  · have same := d.value_split d.negative
    simp only [Layout.value, value, Option.getD_none, zero_sub, same]

theorem value_markedLayout {d : Decimal} (nonempty : d.digits ≠ []) :
    d.markedLayout.value = d.value := by
  unfold markedLayout
  split
  · rename_i zero
    simp [Layout.value, value, valueOf_of_isZero zero]
  · split
    · have same := d.value_split d.negative
      simp only [Layout.value, value, Option.getD_none, zero_sub, ← same]
      split
      · rename_i empty
        simp [empty, valueOf_append, signed_mul]
      · rfl
    · have length : d.point - 1 - ((d.digits.drop 1).length : Int) = d.point - d.digits.length := by
        have := List.length_pos_iff.mpr nonempty
        rw [List.length_drop]
        omega
      simp only [Layout.value, value, Option.getD_some, List.take_append_drop, length]

section Normal

variable {d : Decimal} (normal : d.Normal)
include normal

theorem Normal.isZero_iff : d.isZero = true ↔ d.digits = [0] := by
  constructor
  · intro zero
    apply normal.leading
    obtain ⟨first, rest, digits⟩ := List.exists_cons_of_ne_nil normal.nonempty
    rw [isZero, digits, List.all_cons, Bool.and_eq_true, beq_iff_eq] at zero
    rw [digits, zero.1, List.head?_cons]
  · intro digits
    rw [isZero, digits]
    rfl

/-- No zero is added in front of a digit other than zero or behind the last one. -/
theorem Normal.split_ends (nonzero : ¬ d.isZero = true) :
    d.split.1 ≠ [] ∧ (d.split.1.head? = some 0 → d.split.1 = [0]) ∧
      d.split.2.getLast? ≠ some 0 := by
  have proper : d.digits ≠ [0] := fun zero => nonzero (normal.isZero_iff.mpr zero)
  have first : d.digits.head? ≠ some 0 := fun zero => proper (normal.leading zero)
  have last : d.digits.getLast? ≠ some 0 := fun zero => proper (normal.trailing zero)
  unfold split
  split
  · refine ⟨List.cons_ne_nil 0 [], fun _ => rfl, ?_⟩
    rwa [List.getLast?_append_of_ne_nil _ normal.nonempty]
  · dsimp only
    split
    · refine ⟨by simp [normal.nonempty], fun zero => absurd zero ?_, by simp⟩
      rwa [List.head?_append_of_ne_nil _ normal.nonempty]
    · rename_i high short
      refine ⟨by simp [normal.nonempty, high], fun zero => absurd zero ?_, ?_⟩
      · rw [List.head?_take, if_neg (by omega)]
        exact first
      · rw [List.getLast?_drop, if_neg short]
        exact last

theorem Normal.plain_plainLayout : d.plainLayout.Plain := by
  unfold plainLayout
  split
  · exact ⟨⟨by simp, by simp⟩, rfl, fun _ => rfl, by simp⟩
  · rename_i nonzero
    obtain ⟨nonempty, leading, trailing⟩ := normal.split_ends nonzero
    exact ⟨⟨nonempty, List.forall_mem_append.mpr (lt_of_mem_split normal.small)⟩, rfl, leading,
      trailing⟩

theorem Normal.valid_markedLayout : d.markedLayout.Valid := by
  unfold markedLayout
  split
  · exact ⟨by simp, by simp⟩
  · rename_i nonzero
    split
    · obtain ⟨whole, fraction⟩ := lt_of_mem_split normal.small
      refine ⟨(normal.split_ends nonzero).1, List.forall_mem_append.mpr ⟨whole, ?_⟩⟩
      split
      · simp
      · exact fraction
    · refine ⟨by simp [normal.nonempty], ?_⟩
      rw [List.take_append_drop]
      exact normal.small

/-- Without an exponent mark the text denotes the decimal. -/
theorem Normal.denoted?_positional : Layout.denoted? d.positional = some d.value := by
  rw [positional_eq_text, normal.plain_plainLayout.denoted?_text, value_plainLayout]

/-- With an exponent mark or without one, the text denotes the decimal. -/
theorem Normal.denoted?_scientific : Layout.denoted? d.scientific = some d.value := by
  rw [scientific_eq_text normal.nonempty, normal.valid_markedLayout.denoted?_text,
    value_markedLayout normal.nonempty]

end Normal

theorem negative_plainLayout (d : Decimal) : d.plainLayout.negative = d.negative := by
  unfold plainLayout
  split <;> rfl

end Decimal

/-- The text has a plain layout with this sign, and a fraction only if the number is not whole. -/
structure WritesPlainly (text : String) (negative : Bool) (q : ℚ) : Prop where
  laidOut : ∃ layout : Layout, text = layout.text ∧ layout.Plain ∧ layout.negative = negative ∧
    (layout.fraction = [] ↔ q.den = 1)
  denotes : Layout.denoted? text = some q

theorem Decimal.Normal.writesPlainly {d : Decimal} (normal : d.Normal) :
    WritesPlainly d.positional d.negative d.value := by
  have plain := normal.plain_plainLayout
  refine ⟨⟨d.plainLayout, d.positional_eq_text, plain, d.negative_plainLayout, ?_⟩,
    normal.denoted?_positional⟩
  rw [plain.fraction_eq_nil_iff, value_plainLayout]

/-- Integers are written as usual: a minus where one is needed and no zeros in front. -/
theorem integerText_eq_toString (n : Int) : integerText n = toString n := by
  cases n with
  | ofNat magnitude => rfl
  | negSucc magnitude =>
      have negative : Int.negSucc magnitude < 0 := Int.negSucc_lt_zero magnitude
      simp only [integerText, negative, ↓reduceIte]
      rfl

end Runboard.Number
