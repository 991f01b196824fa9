import Runboard.Json.Parser

set_option autoImplicit false

namespace Runboard.Json

theorem bind_eq_ok_iff {ε α β : Type} {first : Except ε α} {next : α → Except ε β} {b : β} :
    first >>= next = .ok b ↔ ∃ a, first = .ok a ∧ next a = .ok b := by
  constructor
  · intro done
    cases first with
    | error e => cases done
    | ok a => exact ⟨a, rfl, done⟩
  · rintro ⟨a, rfl, done⟩
    exact done

theorem mapError_eq_ok_iff {α ε δ : Type} {f : ε → δ} {outcome : Except ε α} {a : α} :
    outcome.mapError f = .ok a ↔ outcome = .ok a := by
  constructor
  · intro mapped
    cases outcome with
    | error e => cases mapped
    | ok b =>
        cases mapped
        rfl
  · rintro rfl
    rfl

/-! Strings. -/

/-- The ways of writing a character inside a string. -/
inductive Escaping (c : Char) : List Char → Prop
  /-- A back slash and a mark that is read as the character. -/
  | short (mark : Char) (printed : 0x20 ≤ mark.toNat)
      (read : ∀ rest, readEscape (mark :: rest) = .ok (c, rest)) : Escaping c ['\\', mark]
  | hexadecimal (control : c.toNat < 0x20) :
      Escaping c ('\\' :: 'u' :: '0' :: '0' :: hexPair c.toNat)
  | plain (printed : 0x20 ≤ c.toNat) (quote : c ≠ '"') (slash : c ≠ '\\') : Escaping c [c]

theorem escaping_escapedChar (c : Char) : Escaping c (escapedChar c) := by
  unfold escapedChar
  repeat' split
  all_goals try (subst c; exact .short _ (by decide) fun _ => rfl)
  · rename_i control
    exact .hexadecimal control
  · rename_i quote slash _ _ _ _ _ printed
    exact .plain (Nat.le_of_not_lt printed) quote slash

/-- The digits of a control character's escape. -/
theorem hexPair_digits : ∀ n < 0x20, byteCount ('0' :: '0' :: hexPair n) = 4 ∧
    hexNumber? '0' '0' (Nat.digitChar (n / 16 % 16)) (Nat.digitChar (n % 16)) = some n ∧
    (hexPair n).all (0x20 ≤ ·.toNat) = true := by
  decide

theorem readHex_hexPair {n : Nat} (control : n < 0x20) (rest : List Char) :
    readHex ('0' :: '0' :: (hexPair n ++ rest)) = .ok (n, rest) := by
  obtain ⟨bytes, number, _⟩ := hexPair_digits n control
  have enough : ¬ byteCount (('0' :: '0' :: (hexPair n ++ rest)).take 4) < 4 :=
    Nat.not_lt.mpr (Nat.le_of_eq bytes.symm)
  unfold readHex
  rw [if_neg enough]
  simp only [hexPair, List.cons_append, List.nil_append, number]

theorem Escaping.readChar {c : Char} {written : List Char} (escaping : Escaping c written)
    (rest : List Char) : readChar (written ++ rest) = .ok (c, rest) := by
  cases escaping with
  | short mark printed read => exact read rest
  | hexadecimal control =>
      have unpaired : isTrailing c.toNat = false ∧ isLeading c.toNat = false := by
        simp only [isTrailing, isLeading, Bool.and_eq_false_iff, decide_eq_false_iff_not]
        omega
      have read : readEscape ('u' :: '0' :: '0' :: (hexPair c.toNat ++ rest)) =
          .ok (Char.ofNat c.toNat, rest) := by
        simp only [readEscape, readHex_hexPair control, bind, Except.bind, unpaired]
        rfl
      rw [Char.ofNat_toNat] at read
      exact read
  | plain printed quote slash =>
      simp [Json.readChar, Nat.not_lt.mpr printed]

/-- No character is written so that it looks like the closing quote. -/
theorem Escaping.opening {c : Char} {written : List Char} (escaping : Escaping c written) :
    ∃ first more, written = first :: more ∧ first ≠ '"' := by
  cases escaping with
  | short mark printed read => exact ⟨'\\', _, rfl, by decide⟩
  | hexadecimal control => exact ⟨'\\', _, rfl, by decide⟩
  | plain printed quote slash => exact ⟨c, [], rfl, quote⟩

/-- No line feed and no other control character is written as itself. -/
theorem Escaping.printed {c : Char} {written : List Char} (escaping : Escaping c written) :
    ∀ d ∈ written, 0x20 ≤ d.toNat := by
  intro d member
  cases escaping with
  | short mark printed read =>
      simp only [List.mem_cons, List.not_mem_nil, or_false] at member
      rcases member with rfl | rfl
      · decide
      · exact printed
  | hexadecimal control =>
      simp only [List.mem_cons] at member
      rcases member with rfl | rfl | rfl | rfl | digit
      · decide
      · decide
      · decide
      · decide
      · have all := List.all_eq_true.mp (hexPair_digits c.toNat control).2.2
        exact of_decide_eq_true (all d digit)
  | plain printed quote slash =>
      cases List.mem_singleton.mp member
      exact printed

theorem readChars_escaped (cs rest : List Char) (fuel : Nat) (enough : cs.length < fuel) :
    readChars fuel (cs.flatMap escapedChar ++ '"' :: rest) = .ok (cs, rest) := by
  induction cs generalizing fuel with
  | nil =>
      obtain ⟨fuel, rfl⟩ := Nat.exists_eq_add_one_of_ne_zero (Nat.ne_zero_of_lt enough)
      rfl
  | cons c cs ih =>
      obtain ⟨fuel, rfl⟩ := Nat.exists_eq_add_one_of_ne_zero (Nat.ne_zero_of_lt enough)
      have later := ih fuel (Nat.lt_of_succ_lt_succ enough)
      have escaping := escaping_escapedChar c
      have read := escaping.readChar (cs.flatMap escapedChar ++ '"' :: rest)
      obtain ⟨first, more, written, opens⟩ := escaping.opening
      rw [List.flatMap_cons, List.append_assoc]
      rw [written, List.cons_append] at read ⊢
      rw [readChars]
      · simp only [read, later, bind, Except.bind, pure, Except.pure]
      · intro _ same
        exact opens (List.cons.inj same).1

theorem length_le_escaped (cs : List Char) : cs.length ≤ (cs.flatMap escapedChar).length := by
  induction cs with
  | nil => exact Nat.le_refl 0
  | cons c cs ih =>
      obtain ⟨first, more, written, _⟩ := (escaping_escapedChar c).opening
      simp only [List.flatMap_cons, written, List.length_append, List.length_cons]
      omega

/-- A string is read up to its closing quote, whatever stands behind it. -/
theorem readString_escaped (s : String) (rest : List Char) :
    readString (s.toList.flatMap escapedChar ++ '"' :: rest) = .ok (s, rest) := by
  have enough := length_le_escaped s.toList
  have read := readChars_escaped s.toList rest
    ((s.toList.flatMap escapedChar ++ '"' :: rest).length + 1)
    (by simp only [List.length_append]; omega)
  simp only [readString, read, bind, Except.bind, pure, Except.pure, String.ofList_toList]

theorem stringChars_printed (s : String) : ∀ c ∈ stringChars s, 0x20 ≤ c.toNat := by
  intro c member
  simp only [stringChars, List.mem_cons, List.mem_append, List.mem_flatMap, List.not_mem_nil,
    or_false] at member
  rcases member with rfl | ⟨d, _, written⟩ | rfl
  · decide
  · exact (escaping_escapedChar d).printed c written
  · decide

theorem stringChars_append (s : String) (rest : List Char) :
    stringChars s ++ rest = '"' :: (s.toList.flatMap escapedChar ++ '"' :: rest) := by
  simp [stringChars]

/-! Integers. -/

/-- The text does not go on with anything that could belong to a number. -/
def EndsNumber (rest : List Char) : Prop :=
  ∀ c ∈ rest.head?, c.isDigit = false ∧ c ≠ '.' ∧ c ≠ 'e' ∧ c ≠ 'E'

theorem EndsNumber.nil : EndsNumber [] := by simp [EndsNumber]

theorem EndsNumber.cons {c : Char}
    (apart : c.isDigit = false ∧ c ≠ '.' ∧ c ≠ 'e' ∧ c ≠ 'E') (rest : List Char) :
    EndsNumber (c :: rest) := by
  intro first head
  cases head
  exact apart

theorem EndsNumber.any_isDigit {rest : List Char} (ends : EndsNumber rest) :
    rest.head?.any Char.isDigit = false := by
  cases rest with
  | nil => rfl
  | cons c rest => exact (ends c rfl).1

/-- Further digits make a number no smaller. -/
theorem le_ofDigitChars (digits : List Char) (significand : Nat) :
    significand ≤ Nat.ofDigitChars 10 digits significand := by
  induction digits generalizing significand with
  | nil => exact Nat.le_refl significand
  | cons c digits ih =>
      rw [Nat.ofDigitChars_cons]
      have := ih (10 * significand + (c.toNat - '0'.toNat))
      omega

theorem takeDigits_of_fits {digits rest : List Char} {significand : Nat}
    (all : ∀ c ∈ digits, c.isDigit = true) (ends : EndsNumber rest)
    (fits : Nat.ofDigitChars 10 digits significand ≤ wordMax) :
    takeDigits significand (digits ++ rest) =
      (Nat.ofDigitChars 10 digits significand, digits.length, rest) := by
  induction digits generalizing significand with
  | nil =>
      cases rest with
      | nil => rfl
      | cons c rest => simp [takeDigits, (ends c rfl).1]
  | cons c digits ih =>
      rw [Nat.ofDigitChars_cons, Nat.mul_comm] at fits ⊢
      have within := Nat.le_trans (le_ofDigitChars digits _) fits
      have later := ih (fun d member => all d (List.mem_cons_of_mem c member)) fits
      have digit := all c List.mem_cons_self
      simp only [List.cons_append, takeDigits, digit, Bool.true_and, digitValue, within,
        decide_true, ↓reduceIte, later, List.length_cons]

theorem exists_toDigits (n : Nat) : ∃ c more, Nat.toDigits 10 n = c :: more ∧
    c.isDigit = true ∧ ∀ d ∈ more, d.isDigit = true := by
  obtain ⟨c, more, written⟩ := List.exists_cons_of_ne_nil (Nat.toDigits_ne_nil (n := n) (b := 10))
  have digits (d : Char) (member : d ∈ c :: more) : d.isDigit = true :=
    Nat.isDigit_of_mem_toDigits (by decide) (Nat.le_refl 10) (written ▸ member)
  exact ⟨c, more, written, digits c List.mem_cons_self,
    fun d member => digits d (List.mem_cons_of_mem c member)⟩

/-- Only zero is written with a leading zero. -/
theorem head_toDigits_ne_zero {n : Nat} (positive : n ≠ 0) {c : Char} {more : List Char}
    (written : Nat.toDigits 10 n = c :: more) : c ≠ '0' := by
  induction n using Nat.strongRecOn generalizing more with
  | _ n ih =>
      rw [Nat.toDigits_eq_if (by decide)] at written
      split at written
      · obtain ⟨rfl, _⟩ := List.cons.inj written
        simpa using positive
      · obtain ⟨d, rest, front, _⟩ := exists_toDigits (n / 10)
        rw [front, List.cons_append] at written
        obtain ⟨rfl, _⟩ := List.cons.inj written
        exact ih (n / 10) (by omega) (by omega) front

theorem readMagnitude_of_ends (negative : Bool) (n : Nat) {rest : List Char}
    (ends : EndsNumber rest) : readMagnitude negative n rest = makeInteger negative n rest := by
  cases rest with
  | nil => rfl
  | cons c rest =>
      obtain ⟨digit, point, lower, upper⟩ := ends c rfl
      have surplus : (c :: rest).takeWhile Char.isDigit = [] := by simp [digit]
      have same : (c :: rest).dropWhile Char.isDigit = c :: rest := by simp [digit]
      unfold readMagnitude
      rw [surplus, same]
      split
      · rename_i starts
        exact absurd (List.cons.inj starts).1 point
      · rename_i starts
        exact absurd (List.cons.inj starts).1 lower
      · rename_i starts
        exact absurd (List.cons.inj starts).1 upper
      · rfl

theorem readNumber_toDigits (negative : Bool) {n : Nat} (fits : n ≤ wordMax) {rest : List Char}
    (ends : EndsNumber rest) :
    readNumber negative (Nat.toDigits 10 n ++ rest) = makeInteger negative n rest := by
  by_cases zero : n = 0
  · subst zero
    simp [readNumber, ends.any_isDigit, readMagnitude_of_ends negative 0 ends]
  · obtain ⟨c, more, written, digit, digits⟩ := exists_toDigits n
    have total : Nat.ofDigitChars 10 more (digitValue c) = n := by
      have all := Nat.ofDigitChars_ten_toDigits (n := n)
      rwa [written, Nat.ofDigitChars_cons, Nat.mul_zero, Nat.zero_add] at all
    have taken := takeDigits_of_fits digits ends (total ▸ fits)
    rw [written, List.cons_append, readNumber]
    · simp only [digit, ↓reduceIte, taken, total]
      exact readMagnitude_of_ends negative n ends
    · exact head_toDigits_ne_zero zero written

/-- Integers that fit a signed or an unsigned 64-bit word. -/
def IsWord (n : Int) : Prop := -0x8000000000000000 ≤ n ∧ n ≤ 0xffffffffffffffff

theorem makeInteger_of_word {n : Int} (word : IsWord n) (rest : List Char) :
    makeInteger (decide (n < 0)) n.natAbs rest = .ok (.integer n, rest) := by
  obtain ⟨low, high⟩ := word
  by_cases negative : n < 0
  · have zero : n.natAbs ≠ 0 := by omega
    have fits : ¬ 0x8000000000000000 < n.natAbs := by omega
    have value : -(n.natAbs : Int) = n := by omega
    simp only [makeInteger, negative, zero, fits, value, decide_true, decide_false, Bool.not_true,
      Bool.or_self, Bool.false_eq_true, ↓reduceIte]
  · have value : (n.natAbs : Int) = n := by omega
    simp only [makeInteger, negative, value, decide_false, Bool.not_false, ↓reduceIte]

theorem readScalar_of_isDigit {c : Char} (digit : c.isDigit = true) (rest : List Char) :
    readScalar (c :: rest) = (do
      let (n, rest) ← readNumber false (c :: rest)
      return (.number n, rest)) := by
  have apart (d : Char) (other : d.isDigit = false) : c = d → False := by
    rintro rfl
    exact Bool.noConfusion (digit.symm.trans other)
  rw [readScalar, if_pos digit]
  all_goals exact apart _ rfl

theorem readScalar_integerText {n : Int} (word : IsWord n) {rest : List Char}
    (ends : EndsNumber rest) :
    readScalar ((Number.integerText n).toList ++ rest) = .ok (.number (.integer n), rest) := by
  have fits : n.natAbs ≤ wordMax := by
    have := word.1
    have := word.2
    unfold wordMax
    omega
  have made := makeInteger_of_word word rest
  by_cases negative : n < 0
  · have read := readNumber_toDigits true fits ends
    rw [decide_eq_true negative] at made
    simp [Number.integerText, negative, readScalar, read, made, bind, Except.bind, pure,
      Except.pure]
  · have read := readNumber_toDigits false fits ends
    rw [decide_eq_false negative] at made
    obtain ⟨c, more, written, digit, _⟩ := exists_toDigits n.natAbs
    have text : (Number.integerText n).toList = c :: more := by
      simp [Number.integerText, negative, written]
    rw [written, List.cons_append] at read
    rw [text, List.cons_append, readScalar_of_isDigit digit, read, made]
    rfl

/-- An integer starts with a minus or a digit. -/
theorem exists_integerText (n : Int) : ∃ c more, (Number.integerText n).toList = c :: more ∧
    (c = '-' ∨ c.isDigit = true) := by
  obtain ⟨c, more, written, digit, _⟩ := exists_toDigits n.natAbs
  by_cases negative : n < 0
  · exact ⟨'-', Nat.toDigits 10 n.natAbs, by simp [Number.integerText, negative], Or.inl rfl⟩
  · exact ⟨c, more, by simp [Number.integerText, negative, written], Or.inr digit⟩

theorem integerText_printed (n : Int) :
    ∀ c ∈ (Number.integerText n).toList, 0x20 ≤ c.toNat := by
  have digits (c : Char) (member : c ∈ Nat.toDigits 10 n.natAbs) : 0x20 ≤ c.toNat := by
    have digit := Nat.isDigit_of_mem_toDigits (by decide) (Nat.le_refl 10) member
    exact Nat.le_trans (by decide) (Char.isDigit_iff_toNat.mp digit).1
  intro c member
  by_cases negative : n < 0
  · simp only [Number.integerText, negative, ↓reduceIte, String.toList_append, String.toList_ofList,
      List.mem_append] at member
    rcases member with minus | digit
    · cases List.mem_singleton.mp minus
      decide
    · exact digits c digit
  · simp only [Number.integerText, negative, ↓reduceIte, String.toList_ofList] at member
    exact digits c member

end Runboard.Json
