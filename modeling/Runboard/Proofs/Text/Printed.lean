import Runboard.Json.Mismatch
import Runboard.Proofs.Json.Roundtrip

set_option autoImplicit false

namespace Runboard

namespace Text

/-- No character of the text is below the space. -/
def Printed (text : String) : Prop := ∀ c ∈ text.toList, 0x20 ≤ c.toNat

theorem printed_of_all {text : String} (all : text.toList.all (0x20 ≤ ·.toNat) = true) :
    Printed text := by
  intro c member
  exact of_decide_eq_true (List.all_eq_true.mp all c member)

theorem printed_ofList {cs : List Char} (all : ∀ c ∈ cs, 0x20 ≤ c.toNat) :
    Printed (String.ofList cs) := by
  rw [Printed, String.toList_ofList]
  exact all

theorem Printed.append {first second : String} (left : Printed first) (right : Printed second) :
    Printed (first ++ second) := by
  rw [Printed, String.toList_append]
  exact List.forall_mem_append.mpr ⟨left, right⟩

/-- Digits up to base sixteen are figures and letters. -/
theorem printed_digitChar : ∀ n < 16, 0x20 ≤ (Nat.digitChar n).toNat := by
  decide

theorem printed_toDigits {base : Nat} (large : 1 < base) (within : base ≤ 16) (n : Nat) :
    ∀ c ∈ Nat.toDigits base n, 0x20 ≤ c.toNat := by
  induction n using Nat.strongRecOn with
  | _ n ih =>
      rw [Nat.toDigits_eq_if large]
      split
      · rename_i short
        simpa using printed_digitChar n (by omega)
      · rename_i long
        have shorter : n / base < n := Nat.div_lt_self (by omega) large
        have last : n % base < base := Nat.mod_lt n (by omega)
        refine List.forall_mem_append.mpr ⟨ih _ shorter, ?_⟩
        simpa using printed_digitChar (n % base) (by omega)

theorem printed_toString (n : Nat) : Printed (toString n) :=
  printed_ofList (printed_toDigits (by decide) (by decide) n)

/-- Between quotes a character stands for itself only if it is printable. -/
theorem printed_quotedChar (c : Char) : ∀ d ∈ quotedChar c, 0x20 ≤ d.toNat := by
  have escaped (mark : Char) (printed : 0x20 ≤ mark.toNat) :
      ∀ d ∈ ['\\', mark], 0x20 ≤ d.toNat := by
    simp only [List.forall_mem_cons, List.not_mem_nil, false_implies, implies_true, and_true]
    exact ⟨by decide, printed⟩
  unfold quotedChar
  repeat' split
  all_goals try exact escaped _ (by decide)
  · rename_i shown
    rw [Bool.and_eq_true] at shown
    simpa using le_of_isPrintable shown.1
  · refine List.forall_mem_append.mpr ⟨List.forall_mem_append.mpr ⟨?_, ?_⟩, by simp⟩
    · simp
    · exact printed_toDigits (by decide) (by decide) c.toNat

theorem printed_quoted (text : String) : Printed (quoted text) := by
  refine (Printed.append (printed_of_all (by decide)) (printed_ofList ?_)).append
    (printed_of_all (by decide))
  intro c member
  obtain ⟨d, _, written⟩ := List.mem_flatMap.mp member
  exact printed_quotedChar d c written

end Text

open Text (Printed)

namespace Number

theorem lt_of_mem_digitsOf {n d : Nat} (member : d ∈ digitsOf n) : d < 10 := by
  obtain ⟨c, digit, rfl⟩ := List.mem_map.mp member
  have range := Nat.isDigit_of_mem_toDigits (by decide) (Nat.le_refl 10) digit
  have nine : '9'.toNat = 57 := rfl
  have zero : '0'.toNat = 48 := rfl
  have upper := (Char.isDigit_iff_toNat.mp range).2
  omega

theorem mem_of_mem_dropTrailingZeros {digits : List Nat} {d : Nat}
    (member : d ∈ (dropTrailingZeros digits).1) : d ∈ digits := by
  rw [dropTrailingZeros, List.mem_reverse] at member
  exact List.mem_reverse.mp ((List.dropWhile_sublist _).subset member)

/-- The shortest form of a number has decimal digits. -/
theorem lt_of_mem_shortest {tie : Tie} {x : Binary} {d : Nat}
    (member : d ∈ (shortest tie x).digits) : d < 10 := by
  unfold shortest at member
  split at member
  · cases List.mem_singleton.mp member
    decide
  · exact lt_of_mem_digitsOf (mem_of_mem_dropTrailingZeros member)

theorem printed_digitChar : ∀ d < 10, 0x20 ≤ (digitChar d).toNat := by
  decide

namespace Decimal

variable {d : Decimal}

theorem printed_sign (d : Decimal) : ∀ c ∈ d.sign, 0x20 ≤ c.toNat := by
  unfold sign
  split
  · simp
  · simp

theorem printed_digitChars {digits : List Nat} (small : ∀ digit ∈ digits, digit < 10) :
    ∀ c ∈ digitChars digits, 0x20 ≤ c.toNat := by
  intro c member
  obtain ⟨digit, listed, rfl⟩ := List.mem_map.mp member
  exact printed_digitChar digit (small digit listed)

/-- Nothing but zeros is added to the digits around the point. -/
theorem lt_of_mem_split (small : ∀ digit ∈ d.digits, digit < 10) :
    (∀ digit ∈ d.split.1, digit < 10) ∧ ∀ digit ∈ d.split.2, digit < 10 := by
  have zeros (n : Nat) : ∀ digit ∈ List.replicate n 0, digit < 10 := by
    intro digit member
    cases List.eq_of_mem_replicate member
    decide
  unfold split
  split
  · exact ⟨by simp, List.forall_mem_append.mpr ⟨zeros _, small⟩⟩
  · dsimp only
    split
    · exact ⟨List.forall_mem_append.mpr ⟨small, zeros _⟩, by simp⟩
    · exact ⟨fun digit member => small digit (List.mem_of_mem_take member),
        fun digit member => small digit (List.mem_of_mem_drop member)⟩

theorem printed_scientific (small : ∀ digit ∈ d.digits, digit < 10) : Printed d.scientific := by
  have sign := printed_sign d
  obtain ⟨left, right⟩ := lt_of_mem_split small
  have whole := printed_digitChars left
  have fraction := printed_digitChars right
  have power : ∀ c ∈ Nat.toDigits 10 (d.point - 1).natAbs, 0x20 ≤ c.toNat :=
    Text.printed_toDigits (by decide) (by decide) _
  have mark : ∀ c ∈ (if d.point - 1 < 0 then ['e', '-'] else ['e', '+']), 0x20 ≤ c.toNat := by
    split <;> simp
  unfold scientific
  split
  · apply Text.printed_ofList
    simp only [List.forall_mem_append]
    exact ⟨sign, by simp⟩
  · dsimp only
    split
    · split <;> rename_i parts <;> rw [parts] at whole fraction <;> apply Text.printed_ofList <;>
        simp only [List.forall_mem_append, List.forall_mem_cons]
      · exact ⟨⟨sign, whole⟩, by simp⟩
      · exact ⟨⟨sign, whole⟩, by decide, fraction⟩
    · split
      · exact Text.printed_of_all rfl
      · rename_i first digits
        rw [digits] at small
        have lead := printed_digitChar first (small first List.mem_cons_self)
        apply Text.printed_ofList
        simp only [List.forall_mem_append, List.forall_mem_cons]
        exact ⟨sign, lead, mark, power⟩
      · rename_i first rest _ digits
        rw [digits] at small
        obtain ⟨head, tail⟩ := List.forall_mem_cons.mp small
        have lead := printed_digitChar first head
        have more := printed_digitChars tail
        apply Text.printed_ofList
        simp only [List.forall_mem_append, List.forall_mem_cons]
        exact ⟨sign, lead, by decide, ⟨more, mark⟩, power⟩

end Decimal

end Number

namespace Json

theorem printed_floatText (x : Number.Binary) : Printed (floatText x) :=
  Number.Decimal.printed_scientific fun _ member => Number.lt_of_mem_shortest member

mutual

/-- The text of any value stands on one line. -/
theorem printed_chars : (v : Json) → ∀ c ∈ v.chars, 0x20 ≤ c.toNat
  | .null => show Printed "null" from Text.printed_of_all (by decide)
  | .bool true => show Printed "true" from Text.printed_of_all (by decide)
  | .bool false => show Printed "false" from Text.printed_of_all (by decide)
  | .number (.integer n) => integerText_printed n
  | .number (.float x) => printed_floatText x
  | .string s => stringChars_printed s
  | .array items =>
      List.forall_mem_cons.mpr ⟨by decide, itemChars_printed (printed_items items)⟩
  | .object members =>
      List.forall_mem_cons.mpr ⟨by decide, memberChars_printed (printed_members members)⟩

theorem printed_items : (items : List Json) → ∀ item ∈ items, ∀ c ∈ item.chars, 0x20 ≤ c.toNat
  | [] => List.forall_mem_nil _
  | item :: rest => List.forall_mem_cons.mpr ⟨printed_chars item, printed_items rest⟩

theorem printed_members :
    (members : List (String × Json)) → ∀ member ∈ members, ∀ c ∈ member.2.chars, 0x20 ≤ c.toNat
  | [] => List.forall_mem_nil _
  | (_, v) :: rest => List.forall_mem_cons.mpr ⟨printed_chars v, printed_members rest⟩

end

theorem printed_text (v : Json) : Printed v.text := Text.printed_ofList v.printed_chars

theorem printed_describe (v : Json) : Printed v.describe := by
  have tick : Printed "`" := Text.printed_of_all (by decide)
  cases v with
  | null => exact Text.printed_of_all (by decide)
  | bool b => cases b <;> exact Text.printed_of_all (by decide)
  | number n =>
      cases n with
      | integer n =>
          have opening : Printed "integer `" := Text.printed_of_all (by decide)
          exact (opening.append (integerText_printed n)).append tick
      | float x =>
          have opening : Printed "floating point `" := Text.printed_of_all (by decide)
          exact (opening.append (printed_floatText x)).append tick
  | string s =>
      have opening : Printed "string " := Text.printed_of_all (by decide)
      exact opening.append (Text.printed_quoted s)
  | array items => exact show Printed "sequence" from Text.printed_of_all (by decide)
  | object members => exact show Printed "map" from Text.printed_of_all (by decide)

end Json

end Runboard
