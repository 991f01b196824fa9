import Runboard.Json.Parser

set_option autoImplicit false

/-!
A carriage return behind the tokens of a JSON text.

To the readers it is a blank at the very end. A reader that succeeds without it succeeds with it,
reads the same and leaves it unread; one that fails without it also fails with it, if perhaps for
another reason. Along the way every reader is seen to make progress.
-/

namespace Runboard.Json

/-- Both results are faults, or `P` holds of the first and the second is `shift` of it. -/
inductive Mirrors {α : Type} (shift : α → α) (P : α → Prop) :
    Except Fault α → Except Fault α → Prop
  | ok (a : α) (holds : P a) : Mirrors shift P (.ok a) (.ok (shift a))
  | error (e e' : Fault) : Mirrors shift P (.error e) (.error e')

namespace Mirrors

variable {α β : Type} {shift : α → α} {P Q : α → Prop} {x y : Except Fault α}

theorem bind {shift' : β → β} {Q : β → Prop} {f g : α → Except Fault β}
    (first : Mirrors shift P x y) (next : ∀ a, P a → Mirrors shift' Q (f a) (g (shift a))) :
    Mirrors shift' Q (x >>= f) (y >>= g) := by
  cases first with
  | ok a holds => exact next a holds
  | error e e' => exact .error e e'

theorem mono (mirrors : Mirrors shift P x y) (weaker : ∀ a, P a → Q a) : Mirrors shift Q x y := by
  cases mirrors with
  | ok a holds => exact .ok a (weaker a holds)
  | error e e' => exact .error e e'

theorem ite {c : Prop} [Decidable c] {x' y' : Except Fault α} (yes : c → Mirrors shift P x y)
    (no : ¬c → Mirrors shift P x' y') :
    Mirrors shift P (if c then x else x') (if c then y else y') := by
  by_cases holds : c
  · rw [if_pos holds, if_pos holds]
    exact yes holds
  · rw [if_neg holds, if_neg holds]
    exact no holds

/-- A fault stays a fault, whatever it becomes. -/
theorem of_error {e : Fault} (failed : ∃ e', y = .error e') : Mirrors shift P (.error e) y := by
  obtain ⟨e', rfl⟩ := failed
  exact .error e e'

theorem holds {a : α} (mirrors : Mirrors shift P x y) (same : x = .ok a) : P a := by
  cases mirrors with
  | ok b holds =>
      cases same
      exact holds
  | error e e' => cases same

end Mirrors

/-- What was read, with the carriage return behind the text that is left. -/
def behind {α : Type} (read : α × List Char) : α × List Char := (read.1, read.2 ++ ['\r'])

/-- The reader takes at least `least` characters and leaves a carriage return behind the text
alone. -/
def Passes {α : Type} (least : Nat) (reader : Reader α) : Prop :=
  ∀ cs, Mirrors behind (fun read => read.2.length + least ≤ cs.length) (reader cs)
    (reader (cs ++ ['\r']))

theorem Passes.shorter {α : Type} {least : Nat} {reader : Reader α} (passes : Passes least reader)
    {cs rest : List Char} {a : α} (read : reader cs = .ok (a, rest)) :
    rest.length + least ≤ cs.length :=
  (passes cs).holds read

/-- A reader that goes on from a later place leaves no more than it would there. -/
theorem Passes.within {α : Type} {least target bound : Nat} {reader : Reader α}
    (passes : Passes least reader) {rest : List Char}
    (reached : rest.length + target ≤ bound + least) :
    Mirrors behind (fun read => read.2.length + target ≤ bound) (reader rest)
      (reader (rest ++ ['\r'])) := by
  refine (passes rest).mono fun read short => ?_
  omega

/-- A text that does not start with a character does not start with it in front of a carriage return
either. -/
theorem starts_return {c : Char} {cs : List Char} (other : ∀ rest, cs = c :: rest → False)
    (visible : c ≠ '\r') : ∀ rest, cs ++ ['\r'] = c :: rest → False := by
  intro rest same
  cases cs with
  | nil => exact visible (List.cons.inj same).1.symm
  | cons d ds => exact other ds (by rw [(List.cons.inj same).1])

theorem return_ne_nil (cs : List Char) : cs ++ ['\r'] ≠ [] :=
  List.append_ne_nil_of_right_ne_nil cs (List.cons_ne_nil _ _)

theorem passes_readLetters (value : Json) {letters : List Char} (visible : '\r' ∉ letters) :
    Passes 0 (readLetters value letters) := by
  induction letters with
  | nil => exact fun cs => .ok (value, cs) (Nat.le_refl _)
  | cons letter letters ih =>
      obtain ⟨apart, visible⟩ := not_or.mp (mt List.mem_cons.mpr visible)
      intro cs
      cases cs with
      | nil =>
          simp only [List.nil_append, readLetters, apart, ↓reduceIte]
          exact .error _ _
      | cons c cs =>
          simp only [List.cons_append, readLetters]
          split
          · exact (ih visible).within (Nat.le_succ _)
          · exact .error _ _

/-! Strings. -/

theorem hexNumber?_return (a b c : Char) : hexNumber? a b c '\r' = none := by
  have nothing : Text.hexValue? '\r' = none := rfl
  cases first : Text.hexValue? a <;> cases second : Text.hexValue? b <;>
    cases third : Text.hexValue? c <;> simp [hexNumber?, first, second, third, nothing]

theorem readHex_of_short (cs : List Char) (short : cs.length < 4) : ∃ e, readHex cs = .error e := by
  unfold readHex
  by_cases few : byteCount (cs.take 4) < 4
  · exact ⟨_, if_pos few⟩
  · rw [if_neg few]
    match cs, short with
    | [], _ => exact ⟨_, rfl⟩
    | [_], _ => exact ⟨_, rfl⟩
    | [_, _], _ => exact ⟨_, rfl⟩
    | [_, _, _], _ => exact ⟨_, rfl⟩

theorem passes_readHex : Passes 0 readHex := by
  intro cs
  -- Three characters and a carriage return are the one case in which four are there only now.
  match cs with
  | [] => exact .error _ _
  | [a] =>
      obtain ⟨e, plain⟩ := readHex_of_short [a] (by simp)
      rw [plain]
      exact .of_error (readHex_of_short _ (by simp))
  | [a, b] =>
      obtain ⟨e, plain⟩ := readHex_of_short [a, b] (by simp)
      rw [plain]
      exact .of_error (readHex_of_short _ (by simp))
  | [a, b, c] =>
      obtain ⟨e, plain⟩ := readHex_of_short [a, b, c] (by simp)
      rw [plain]
      apply Mirrors.of_error
      simp only [readHex, List.cons_append, List.nil_append, hexNumber?_return]
      split <;> exact ⟨_, rfl⟩
  | a :: b :: c :: d :: rest =>
      simp only [readHex, List.cons_append, List.take_succ_cons, List.take_zero]
      refine .ite (fun _ => .error _ _) fun _ => ?_
      cases hexNumber? a b c d with
      | none => exact .error _ _
      | some n =>
          refine .ok (n, rest) ?_
          simp only [List.length_cons]
          omega

theorem passes_readTrailing (leading : Nat) : Passes 0 (readTrailing leading) := by
  intro cs
  fun_cases readTrailing leading cs with
  | case1 => exact .error _ _
  | case2 => exact .error _ _
  | case3 rest =>
      simp only [List.cons_append, readTrailing]
      refine (passes_readHex rest).bind ?_
      rintro ⟨trailing, left⟩ short
      dsimp only [behind] at short ⊢
      refine .ite (fun _ => ?_) fun _ => .error _ _
      generalize pairChar leading trailing = c
      refine .ok (c, left) ?_
      simp only [List.length_cons]
      omega
  | case4 rest nonempty other =>
      apply Mirrors.of_error
      refine ⟨Fault.atByte Cause.hexEscapeEnd (rest ++ ['\r']), ?_⟩
      rw [List.cons_append, readTrailing]
      · exact return_ne_nil rest
      · exact starts_return other (by decide)
  | case5 cs nonempty _ _ other =>
      apply Mirrors.of_error
      refine ⟨Fault.atByte Cause.hexEscapeEnd (cs ++ ['\r']), ?_⟩
      have slash := starts_return other (by decide)
      rw [readTrailing]
      · exact return_ne_nil cs
      · exact slash _
      · exact fun rest => slash _
      · exact slash

theorem passes_readEscape : Passes 0 readEscape := by
  intro cs
  fun_cases readEscape cs with
  | case1 => exact .error _ _
  | case10 rest =>
      simp only [List.cons_append, readEscape]
      refine (passes_readHex rest).bind ?_
      rintro ⟨n, left⟩ short
      dsimp only [behind] at short ⊢
      refine .ite (fun _ => .error _ _) fun _ => .ite (fun _ => ?_) fun _ => .ok (_, left) ?_
      · exact (passes_readTrailing n).within (Nat.le_succ_of_le short)
      · simp only [List.length_cons]
        omega
  | case11 cs nonempty =>
      apply Mirrors.of_error
      refine ⟨Fault.atByte Cause.invalidEscape (cs ++ ['\r']), ?_⟩
      rw [readEscape]
      · exact return_ne_nil cs
      all_goals exact starts_return ‹_› (by decide)
  | _ rest => exact .ok (_, rest) (Nat.le_succ _)

theorem passes_readChar : Passes 1 readChar := by
  intro cs
  fun_cases readChar cs with
  | case1 => exact .error _ _
  | case2 rest =>
      exact passes_readEscape.within (Nat.le_refl _)
  | case3 c rest apart control =>
      apply Mirrors.of_error
      refine ⟨Fault.atByte .controlCharacter (c :: rest ++ ['\r']), ?_⟩
      rw [List.cons_append, readChar, if_pos control]
      exact apart
  | case4 c rest apart printed =>
      rw [List.cons_append, readChar, if_neg printed]
      · exact .ok (c, rest) (Nat.le_refl _)
      · exact apart

theorem readChars_of_ne {cs : List Char} (goesOn : cs.head? ≠ some '"') (fuel : Nat) :
    readChars (fuel + 1) cs = (do
      let (c, rest) ← readChar cs
      let (more, rest) ← readChars fuel rest
      return (c :: more, rest)) := by
  rw [readChars]
  intro rest same
  exact goesOn (congrArg List.head? same)

/-- With more steps allowed than there are characters, further ones make no difference. -/
theorem readChars_fuel {cs : List Char} {fuel : Nat} (enough : cs.length < fuel) :
    readChars (fuel + 1) cs = readChars fuel cs := by
  induction fuel generalizing cs with
  | zero => omega
  | succ fuel ih =>
      by_cases quote : cs.head? = some '"'
      · obtain ⟨rest, rfl⟩ := List.head?_eq_some_iff.mp quote
        rfl
      · rw [readChars_of_ne quote, readChars_of_ne quote]
        cases read : readChar cs with
        | error e => rfl
        | ok first =>
            have shorter := passes_readChar.shorter read
            have later : readChars (fuel + 1) first.2 = readChars fuel first.2 := ih (by omega)
            simp only [bind, Except.bind, later]

theorem passes_readChars (fuel : Nat) : Passes 0 (readChars fuel) := by
  induction fuel with
  | zero => exact fun cs => .error _ _
  | succ fuel ih =>
      intro cs
      by_cases quote : cs.head? = some '"'
      · obtain ⟨rest, rfl⟩ := List.head?_eq_some_iff.mp quote
        exact .ok ([], rest) (Nat.le_succ _)
      · have quote' : (cs ++ ['\r']).head? ≠ some '"' := by
          cases cs with
          | nil => decide
          | cons c cs => exact quote
        rw [readChars_of_ne quote, readChars_of_ne quote']
        refine (passes_readChar cs).bind ?_
        rintro ⟨c, left⟩ short
        refine (ih left).bind ?_
        rintro ⟨more, last⟩ shorter
        refine .ok (c :: more, last) ?_
        dsimp only at short shorter ⊢
        omega

theorem passes_readString : Passes 0 readString := by
  intro cs
  have enough : (cs ++ ['\r']).length + 1 = cs.length + 1 + 1 := by simp
  unfold readString
  -- The longer text is allowed one step more, which no run on the shorter one would take.
  rw [enough, ← readChars_fuel (Nat.lt_succ_self cs.length)]
  refine (passes_readChars _ cs).bind ?_
  rintro ⟨s, rest⟩ short
  exact .ok (String.ofList s, rest) short

/-! Numbers. -/

theorem takeDigits_return (significand : Nat) (cs : List Char) :
    takeDigits significand (cs ++ ['\r']) =
      ((takeDigits significand cs).1, (takeDigits significand cs).2.1,
        (takeDigits significand cs).2.2 ++ ['\r']) := by
  induction cs generalizing significand with
  | nil => rfl
  | cons c cs ih =>
      simp only [List.cons_append, takeDigits]
      split
      · simp only [ih]
      · rfl

theorem takeDigits_length (significand : Nat) (cs : List Char) :
    (takeDigits significand cs).2.2.length ≤ cs.length := by
  induction cs generalizing significand with
  | nil => exact Nat.le_refl 0
  | cons c cs ih =>
      simp only [takeDigits]
      split
      · exact Nat.le_succ_of_le (ih _)
      · exact Nat.le_refl _

theorem dropDigits_return (cs : List Char) :
    (cs ++ ['\r']).dropWhile Char.isDigit = cs.dropWhile Char.isDigit ++ ['\r'] := by
  induction cs with
  | nil => rfl
  | cons c cs ih =>
      simp only [List.cons_append, List.dropWhile_cons, ih]
      split <;> rfl

theorem takeWhileDigits_return (cs : List Char) :
    (cs ++ ['\r']).takeWhile Char.isDigit = cs.takeWhile Char.isDigit := by
  induction cs with
  | nil => rfl
  | cons c cs ih => simp only [List.cons_append, List.takeWhile_cons, ih]

theorem startsWithDigit_return (cs : List Char) :
    (cs ++ ['\r']).head?.any Char.isDigit = cs.head?.any Char.isDigit := by
  cases cs <;> rfl

theorem takeExponent_return (exponent : Nat) (cs : List Char) :
    takeExponent exponent (cs ++ ['\r']) =
      ((takeExponent exponent cs).1, (takeExponent exponent cs).2 ++ ['\r']) := by
  induction cs generalizing exponent with
  | nil => rfl
  | cons c cs ih =>
      simp only [List.cons_append, takeExponent]
      split
      · split
        · exact ih _
        · rfl
      · rfl

theorem takeExponent_length (exponent : Nat) (cs : List Char) :
    (takeExponent exponent cs).2.length ≤ cs.length := by
  induction cs generalizing exponent with
  | nil => exact Nat.le_refl 0
  | cons c cs ih =>
      simp only [takeExponent]
      split
      · split
        · exact Nat.le_succ_of_le (ih _)
        · exact Nat.le_succ _
      · exact Nat.le_refl _

theorem passes_makeFloat (negative : Bool) (significand : Nat) (exponent : Int) :
    Passes 0 (makeFloat negative significand exponent) := by
  intro cs
  unfold makeFloat
  split
  · exact .ok (_, cs) (Nat.le_refl _)
  · exact .error _ _

theorem passes_makeInteger (negative : Bool) (significand : Nat) :
    Passes 0 (makeInteger negative significand) := by
  intro cs
  unfold makeInteger
  exact .ite (fun _ => .ok (_, cs) (Nat.le_refl _)) fun _ =>
    .ite (fun _ => passes_makeFloat _ _ _ cs) fun _ => .ok (_, cs) (Nat.le_refl _)

theorem exponentSign_return (cs : List Char) :
    exponentSign (cs ++ ['\r']) = ((exponentSign cs).1, (exponentSign cs).2 ++ ['\r']) ∧
      (exponentSign cs).2.length ≤ cs.length := by
  fun_cases exponentSign cs with
  | case1 rest => exact ⟨rfl, Nat.le_succ _⟩
  | case2 rest => exact ⟨rfl, Nat.le_succ _⟩
  | case3 cs plus minus =>
      refine ⟨?_, Nat.le_refl _⟩
      rw [exponentSign]
      · exact starts_return plus (by decide)
      · exact starts_return minus (by decide)

theorem passes_readExponent (negative : Bool) (significand : Nat) (scale : Int) :
    Passes 0 (readExponent negative significand scale) := by
  intro cs
  obtain ⟨sign, short⟩ := exponentSign_return cs
  unfold readExponent
  rw [sign]
  generalize exponentSign cs = signed at short
  obtain ⟨down, digits⟩ := signed
  dsimp only at short ⊢
  cases digits with
  | nil => exact .error _ _
  | cons c rest =>
      simp only [List.cons_append, takeExponent_return]
      have shorter := takeExponent_length (digitValue c) rest
      generalize takeExponent (digitValue c) rest = taken at shorter
      obtain ⟨exponent, left⟩ := taken
      simp only [List.length_cons] at short shorter
      refine .ite (fun _ => .error _ _) fun _ => ?_
      cases exponent with
      | some exponent =>
          exact (passes_makeFloat negative significand _).within (by omega)
      | none =>
          refine .ite (fun _ => .error _ _) fun _ => ?_
          rw [dropDigits_return]
          refine .ok (_, left.dropWhile Char.isDigit) ?_
          have fewer := (List.dropWhile_sublist Char.isDigit (l := left)).length_le
          dsimp only
          omega

theorem passes_readScaled (negative : Bool) (significand : Nat) (scale : Int) :
    Passes 0 (readScaled negative significand scale) := by
  intro cs
  fun_cases readScaled negative significand scale cs with
  | case1 rest =>
      exact (passes_readExponent negative significand scale).within (Nat.le_succ _)
  | case2 rest =>
      exact (passes_readExponent negative significand scale).within (Nat.le_succ _)
  | case3 cs lower upper =>
      rw [readScaled]
      · exact passes_makeFloat negative significand scale cs
      · exact starts_return lower (by decide)
      · exact starts_return upper (by decide)

theorem passes_readFraction (negative : Bool) (significand : Nat) (scale : Int) :
    Passes 0 (readFraction negative significand scale) := by
  intro cs
  unfold readFraction
  rw [takeDigits_return]
  have short := takeDigits_length significand cs
  generalize takeDigits significand cs = taken at short
  obtain ⟨total, count, rest⟩ := taken
  dsimp only at short ⊢
  have fewer := (List.dropWhile_sublist Char.isDigit (l := rest)).length_le
  have scaled (longer : List Char) (same : longer = rest.dropWhile Char.isDigit ++ ['\r']) :
      Mirrors behind (fun read => read.2.length + 0 ≤ cs.length)
        (readScaled negative total (scale - count) (rest.dropWhile Char.isDigit))
        (readScaled negative total (scale - count) longer) := by
    rw [same]
    exact (passes_readScaled _ _ _).within (Nat.le_trans fewer short)
  cases count with
  | zero =>
      cases rest with
      | nil => exact .error _ _
      | cons c rest =>
          exact .ite (fun _ => .error _ _) fun _ => scaled _ (dropDigits_return (c :: rest))
  | succ count =>
      exact scaled _ (dropDigits_return rest)

/-- A number without a fraction and an exponent is whole, or it has too many digits to be. -/
theorem readMagnitude_whole (negative : Bool) (significand : Nat) {cs : List Char}
    (point : ∀ rest, cs.dropWhile Char.isDigit = '.' :: rest → False)
    (lower : ∀ rest, cs.dropWhile Char.isDigit = 'e' :: rest → False)
    (upper : ∀ rest, cs.dropWhile Char.isDigit = 'E' :: rest → False) :
    readMagnitude negative significand cs =
      if (cs.takeWhile Char.isDigit).isEmpty then
        makeInteger negative significand (cs.dropWhile Char.isDigit)
      else
        makeFloat negative significand (cs.takeWhile Char.isDigit).length
          (cs.dropWhile Char.isDigit) := by
  unfold readMagnitude
  dsimp only
  split
  · rename_i starts
    exact (point _ starts).elim
  · rename_i starts
    exact (lower _ starts).elim
  · rename_i starts
    exact (upper _ starts).elim
  · rfl

theorem passes_readMagnitude (negative : Bool) (significand : Nat) :
    Passes 0 (readMagnitude negative significand) := by
  intro cs
  have short := (List.dropWhile_sublist Char.isDigit (l := cs)).length_le
  have whole (point : ∀ rest, cs.dropWhile Char.isDigit = '.' :: rest → False)
      (lower : ∀ rest, cs.dropWhile Char.isDigit = 'e' :: rest → False)
      (upper : ∀ rest, cs.dropWhile Char.isDigit = 'E' :: rest → False) :
      Mirrors behind (fun read => read.2.length + 0 ≤ cs.length)
        (readMagnitude negative significand cs)
        (readMagnitude negative significand (cs ++ ['\r'])) := by
    rw [readMagnitude_whole _ _ point lower upper, readMagnitude_whole, takeWhileDigits_return,
      dropDigits_return]
    · exact .ite
        (fun _ => (passes_makeInteger _ _).within short)
        fun _ => (passes_makeFloat _ _ _).within short
    · rw [dropDigits_return]
      exact starts_return point (by decide)
    · rw [dropDigits_return]
      exact starts_return lower (by decide)
    · rw [dropDigits_return]
      exact starts_return upper (by decide)
  cases digits : cs.dropWhile Char.isDigit with
  | nil => exact whole (by simp [digits]) (by simp [digits]) (by simp [digits])
  | cons c rest =>
      rw [digits, List.length_cons] at short
      by_cases point : c = '.'
      · subst point
        simp only [readMagnitude, takeWhileDigits_return, dropDigits_return, digits,
          List.cons_append]
        exact (passes_readFraction negative significand _).within (by omega)
      by_cases lower : c = 'e'
      · subst lower
        simp only [readMagnitude, takeWhileDigits_return, dropDigits_return, digits,
          List.cons_append]
        exact (passes_readExponent negative significand _).within (by omega)
      by_cases upper : c = 'E'
      · subst upper
        simp only [readMagnitude, takeWhileDigits_return, dropDigits_return, digits,
          List.cons_append]
        exact (passes_readExponent negative significand _).within (by omega)
      exact whole (by simp [digits, point]) (by simp [digits, lower]) (by simp [digits, upper])

theorem passes_readNumber (negative : Bool) : Passes 1 (readNumber negative) := by
  intro cs
  fun_cases readNumber negative cs with
  | case1 => exact .error _ _
  | case2 rest digit =>
      apply Mirrors.of_error
      refine ⟨Fault.atByte Cause.invalidNumber (rest ++ ['\r']), ?_⟩
      rw [List.cons_append, readNumber, startsWithDigit_return, if_pos digit]
  | case3 rest digit =>
      rw [List.cons_append, readNumber, startsWithDigit_return, if_neg digit]
      exact (passes_readMagnitude negative 0).within (Nat.le_refl _)
  | case4 c rest zero digit total count left taken =>
      have short := takeDigits_length (digitValue c) rest
      have longer := takeDigits_return (digitValue c) rest
      rw [taken] at short longer
      dsimp only at short
      rw [List.cons_append, readNumber, if_pos digit, longer]
      · exact (passes_readMagnitude negative total).within (Nat.succ_le_succ short)
      · exact zero
  | case5 c rest zero digit =>
      apply Mirrors.of_error
      refine ⟨Fault.atByte Cause.invalidNumber (c :: (rest ++ ['\r'])), ?_⟩
      rw [List.cons_append, readNumber, if_neg digit]
      exact zero

/-- A number is a value. -/
theorem passes_number (negative : Bool) :
    Passes 1 (fun cs => do
      let (n, rest) ← readNumber negative cs
      return (number n, rest)) := by
  intro cs
  refine (passes_readNumber negative cs).bind ?_
  rintro ⟨n, rest⟩ short
  exact .ok (number n, rest) short

theorem passes_readScalar : Passes 1 readScalar := by
  intro cs
  fun_cases readScalar cs with
  | case1 rest =>
      exact (passes_readLetters null (by decide)).within (Nat.le_refl _)
  | case2 rest =>
      exact (passes_readLetters (bool true) (by decide)).within (Nat.le_refl _)
  | case3 rest =>
      exact (passes_readLetters (bool false) (by decide)).within (Nat.le_refl _)
  | case4 rest =>
      simp only [List.cons_append, readScalar]
      refine (passes_readString rest).bind ?_
      rintro ⟨s, left⟩ short
      exact .ok (string s, left) (Nat.succ_le_succ short)
  | case5 rest =>
      exact (passes_number true).within (Nat.le_succ _)
  | case6 => exact .error _ _
  | case7 c rest _ _ _ _ _ digit =>
      simp only [List.cons_append, readScalar, digit, ↓reduceIte]
      exact passes_number false (c :: rest)
  | case8 c rest _ _ _ _ _ digit =>
      simp only [List.cons_append, readScalar, digit]
      exact .error _ _

end Runboard.Json
