import Runboard.Proofs.Json.Roundtrip
import Runboard.Proofs.Json.TrailingLexeme

set_option autoImplicit false

namespace Runboard.Json

/-- The carriage return is a blank, so it goes with the others if there is nothing else. -/
theorem skipSpaces_return (cs : List Char) :
    skipSpaces (cs ++ ['\r']) = if skipSpaces cs = [] then [] else skipSpaces cs ++ ['\r'] := by
  induction cs with
  | nil => rfl
  | cons c cs ih =>
      cases blank : isSpace c with
      | true =>
          have plain : skipSpaces (c :: cs) = skipSpaces cs := List.dropWhile_cons_of_pos blank
          have longer : skipSpaces (c :: cs ++ ['\r']) = skipSpaces (cs ++ ['\r']) :=
            List.dropWhile_cons_of_pos blank
          rw [plain, longer, ih]
      | false =>
          rw [List.cons_append, skipSpaces_cons blank, skipSpaces_cons blank,
            if_neg (List.cons_ne_nil c cs), List.cons_append]

theorem skipSpaces_return_nil {cs : List Char} (nothing : skipSpaces cs = []) :
    skipSpaces (cs ++ ['\r']) = [] := by
  rw [skipSpaces_return, if_pos nothing]

theorem skipSpaces_return_cons {c : Char} {cs rest : List Char}
    (starts : skipSpaces cs = c :: rest) :
    skipSpaces (cs ++ ['\r']) = c :: (rest ++ ['\r']) := by
  rw [skipSpaces_return, if_neg (starts ▸ List.cons_ne_nil c rest), starts, List.cons_append]

theorem skipSpaces_return_more {cs : List Char} (more : skipSpaces cs ≠ []) :
    skipSpaces (cs ++ ['\r']) = skipSpaces cs ++ ['\r'] := by
  rw [skipSpaces_return, if_neg more]

theorem length_skipSpaces (cs : List Char) : (skipSpaces cs).length ≤ cs.length :=
  (List.dropWhile_sublist isSpace).length_le

theorem length_of_skipSpaces {c : Char} {cs rest : List Char} (starts : skipSpaces cs = c :: rest) :
    rest.length + 1 ≤ cs.length := by
  have short := length_skipSpaces cs
  rw [starts] at short
  exact short

/-! Arrays and objects. -/

/-- The text to go on with, if there is one, has the carriage return behind it. -/
def GoesOn (least : Nat) (cs : List Char) :
    Except Fault (Option (List Char)) → Except Fault (Option (List Char)) → Prop :=
  Mirrors (Option.map (· ++ ['\r'])) fun next => ∀ rest ∈ next, rest.length + least ≤ cs.length

theorem goesOn_nextElement (first : Bool) (cs : List Char) :
    GoesOn 0 cs (nextElement first cs) (nextElement first (cs ++ ['\r'])) := by
  fun_cases nextElement first cs with
  | case1 nothing =>
      simp only [nextElement, skipSpaces_return_nil nothing]
      exact .error _ _
  | case2 rest starts =>
      simp only [nextElement, skipSpaces_return_cons starts]
      exact .ok none (by simp)
  | case3 c rest other starts isFirst =>
      have short := length_of_skipSpaces starts
      simp only [nextElement, skipSpaces_return_cons starts, isFirst, ↓reduceIte]
      exact .ok (some (c :: rest)) (by simpa using short)
  | case4 rest later nothing other starts =>
      simp only [nextElement, skipSpaces_return_cons starts, later, skipSpaces_return_nil nothing]
      exact .error _ _
  | case5 rest later left closes other starts =>
      simp only [nextElement, skipSpaces_return_cons starts, later, skipSpaces_return_cons closes]
      exact .error _ _
  | case6 rest later other starts more opens =>
      have short := length_of_skipSpaces starts
      have shorter := length_skipSpaces rest
      have longer := return_ne_nil (skipSpaces rest)
      have apart := starts_return opens (by decide)
      simp only [nextElement, skipSpaces_return_cons starts, later, skipSpaces_return_more more]
      refine .ok (some (skipSpaces rest)) ?_
      simp only [Option.mem_some_iff, forall_eq']
      omega
  | case7 c rest other starts later apart =>
      simp only [nextElement, skipSpaces_return_cons starts, later, apart]
      exact .error _ _

theorem goesOn_nextKey (first : Bool) (cs : List Char) :
    GoesOn 1 cs (nextKey first cs) (nextKey first (cs ++ ['\r'])) := by
  fun_cases nextKey first cs with
  | case1 nothing =>
      simp only [nextKey, skipSpaces_return_nil nothing]
      exact .error _ _
  | case2 rest starts =>
      simp only [nextKey, skipSpaces_return_cons starts]
      exact .ok none (by simp)
  | case3 rest isFirst other starts =>
      have short := length_of_skipSpaces starts
      simp only [nextKey, skipSpaces_return_cons starts, isFirst, ↓reduceIte]
      exact .ok (some rest) (by simpa using short)
  | case4 c rest other starts isFirst apart =>
      simp only [nextKey, skipSpaces_return_cons starts, isFirst, apart, ↓reduceIte]
      exact .error _ _
  | case5 rest later nothing other starts =>
      simp only [nextKey, skipSpaces_return_cons starts, later, skipSpaces_return_nil nothing]
      exact .error _ _
  | case6 rest later left opens other starts =>
      have short := length_of_skipSpaces starts
      have shorter := length_of_skipSpaces opens
      simp only [nextKey, skipSpaces_return_cons starts, later, skipSpaces_return_cons opens]
      refine .ok (some left) ?_
      simp only [Option.mem_some_iff, forall_eq']
      omega
  | case7 rest later left closes other starts =>
      simp only [nextKey, skipSpaces_return_cons starts, later, skipSpaces_return_cons closes]
      exact .error _ _
  | case8 rest later other starts more quote brace =>
      have longer := return_ne_nil (skipSpaces rest)
      have noQuote := starts_return quote (by decide)
      have noBrace := starts_return brace (by decide)
      simp only [nextKey, skipSpaces_return_cons starts, later, skipSpaces_return_more more]
      exact .error _ _
  | case9 c rest other starts later apart =>
      simp only [nextKey, skipSpaces_return_cons starts, later, apart]
      exact .error _ _

/-- What is left behind a mark has the carriage return behind it. -/
def Leaves (cs : List Char) : Except Fault (List Char) → Except Fault (List Char) → Prop :=
  Mirrors (· ++ ['\r']) fun rest => rest.length ≤ cs.length

theorem leaves_readColon (cs : List Char) :
    Leaves cs (readColon cs) (readColon (cs ++ ['\r'])) := by
  fun_cases readColon cs with
  | case1 nothing =>
      simp only [readColon, skipSpaces_return_nil nothing]
      exact .error _ _
  | case2 rest starts =>
      have short := length_of_skipSpaces starts
      simp only [readColon, skipSpaces_return_cons starts]
      exact .ok rest (by omega)
  | case3 more colon =>
      have longer := return_ne_nil (skipSpaces cs)
      have apart := starts_return colon (by decide)
      simp only [readColon, skipSpaces_return_more more]
      exact .error _ _

theorem leaves_closeArray (cs : List Char) :
    Leaves cs (closeArray cs) (closeArray (cs ++ ['\r'])) := by
  fun_cases closeArray cs with
  | case1 nothing =>
      simp only [closeArray, skipSpaces_return_nil nothing]
      exact .error _ _
  | case2 rest starts =>
      have short := length_of_skipSpaces starts
      simp only [closeArray, skipSpaces_return_cons starts]
      exact .ok rest (by omega)
  | case3 rest starts left closes =>
      simp only [closeArray, skipSpaces_return_cons starts, skipSpaces_return_cons closes]
      exact .error _ _
  | case4 rest starts other =>
      apply Mirrors.of_error
      simp only [closeArray, skipSpaces_return_cons starts]
      split <;> exact ⟨_, rfl⟩
  | case5 more bracket comma =>
      have longer := return_ne_nil (skipSpaces cs)
      have noBracket := starts_return bracket (by decide)
      have noComma := starts_return comma (by decide)
      simp only [closeArray, skipSpaces_return_more more]
      exact .error _ _

theorem leaves_closeObject (cs : List Char) :
    Leaves cs (closeObject cs) (closeObject (cs ++ ['\r'])) := by
  fun_cases closeObject cs with
  | case1 nothing =>
      simp only [closeObject, skipSpaces_return_nil nothing]
      exact .error _ _
  | case2 rest starts =>
      have short := length_of_skipSpaces starts
      simp only [closeObject, skipSpaces_return_cons starts]
      exact .ok rest (by omega)
  | case3 rest starts =>
      simp only [closeObject, skipSpaces_return_cons starts]
      exact .error _ _
  | case4 more brace comma =>
      have longer := return_ne_nil (skipSpaces cs)
      have noBrace := starts_return brace (by decide)
      have noComma := starts_return comma (by decide)
      simp only [closeObject, skipSpaces_return_more more]
      exact .error _ _

section Folds

variable {σ : Type}

theorem passes_foldElements {step : σ → Reader σ} (passes : ∀ state, Passes 1 (step state))
    (fuel : Nat) (first : Bool) (state : σ) : Passes 0 (foldElements step fuel first state) := by
  induction fuel generalizing first state with
  | zero => exact fun cs => .error _ _
  | succ fuel ih =>
      intro cs
      simp only [foldElements]
      refine (goesOn_nextElement first cs).bind ?_
      intro next short
      cases next with
      | none => exact .ok (state, cs) (Nat.le_refl _)
      | some element =>
          have shorter := short element rfl
          refine (passes state element).bind ?_
          rintro ⟨later, rest⟩ shortest
          dsimp only [behind] at shortest ⊢
          exact (ih false later).within (by omega)

/-- With more steps allowed than there are characters, further ones make no difference. -/
theorem foldElements_fuel {step : σ → Reader σ} (passes : ∀ state, Passes 1 (step state))
    {fuel : Nat} {cs : List Char} (first : Bool) (state : σ) (enough : cs.length < fuel) :
    foldElements step (fuel + 1) first state cs = foldElements step fuel first state cs := by
  induction fuel generalizing first state cs with
  | zero => omega
  | succ fuel ih =>
      rw [foldElements, foldElements]
      cases found : nextElement first cs with
      | error e => rfl
      | ok next =>
          cases next with
          | none => rfl
          | some element =>
              have short := (goesOn_nextElement first cs).holds found element rfl
              cases read : step state element with
              | error e => simp only [bind, Except.bind, read]
              | ok later =>
                  have shorter := (passes state).shorter read
                  simp only [bind, Except.bind, read]
                  exact ih false later.1 (by omega)

theorem passes_readArray {step : σ → Reader σ} (passes : ∀ state, Passes 1 (step state))
    (state : σ) : Passes 0 (readArray step state) := by
  intro cs
  have enough : (cs ++ ['\r']).length + 1 = cs.length + 1 + 1 := by simp
  unfold readArray
  rw [enough, ← foldElements_fuel passes true state (Nat.lt_succ_self cs.length)]
  refine (passes_foldElements passes _ true state cs).bind ?_
  rintro ⟨last, rest⟩ short
  refine (leaves_closeArray rest).bind ?_
  intro left shorter
  exact .ok (last, left) (Nat.le_trans shorter short)

theorem passes_foldMembers {step : σ → String → Reader σ}
    (passes : ∀ state key, Passes 1 (step state key)) (fuel : Nat) (first : Bool) (state : σ) :
    Passes 0 (foldMembers step fuel first state) := by
  induction fuel generalizing first state with
  | zero => exact fun cs => .error _ _
  | succ fuel ih =>
      intro cs
      simp only [foldMembers]
      refine (goesOn_nextKey first cs).bind ?_
      intro next short
      cases next with
      | none => exact .ok (state, cs) (Nat.le_refl _)
      | some member =>
          have shorter := short member rfl
          refine (passes_readString member).bind ?_
          rintro ⟨key, text⟩ named
          refine (passes state key text).bind ?_
          rintro ⟨later, rest⟩ shortest
          dsimp only [behind] at named shortest ⊢
          exact (ih false later).within (by omega)

theorem foldMembers_fuel {step : σ → String → Reader σ}
    (passes : ∀ state key, Passes 1 (step state key)) {fuel : Nat} {cs : List Char} (first : Bool)
    (state : σ) (enough : cs.length < fuel) :
    foldMembers step (fuel + 1) first state cs = foldMembers step fuel first state cs := by
  induction fuel generalizing first state cs with
  | zero => omega
  | succ fuel ih =>
      rw [foldMembers, foldMembers]
      cases found : nextKey first cs with
      | error e => rfl
      | ok next =>
          cases next with
          | none => rfl
          | some member =>
              have short := (goesOn_nextKey first cs).holds found member rfl
              cases named : readString member with
              | error e => simp only [bind, Except.bind, named]
              | ok key =>
                  have shorter := passes_readString.shorter named
                  cases read : step state key.1 key.2 with
                  | error e => simp only [bind, Except.bind, named, read]
                  | ok later =>
                      have shortest := (passes state key.1).shorter read
                      simp only [bind, Except.bind, named, read]
                      exact ih false later.1 (by omega)

theorem passes_readObject {step : σ → String → Reader σ}
    (passes : ∀ state key, Passes 1 (step state key)) (state : σ) :
    Passes 0 (readObject step state) := by
  intro cs
  have enough : (cs ++ ['\r']).length + 1 = cs.length + 1 + 1 := by simp
  unfold readObject
  rw [enough, ← foldMembers_fuel passes true state (Nat.lt_succ_self cs.length)]
  refine (passes_foldMembers passes _ true state cs).bind ?_
  rintro ⟨last, rest⟩ short
  refine (leaves_closeObject rest).bind ?_
  intro left shorter
  exact .ok (last, left) (Nat.le_trans shorter short)

end Folds

/-- Only what stands behind the blanks counts. -/
theorem value_congr {cs other : List Char} (depth : Nat) (same : skipSpaces cs = skipSpaces other) :
    value depth cs = value depth other := by
  unfold value
  rw [same]

theorem passes_value (depth : Nat) : Passes 1 (value depth) := by
  intro cs
  fun_induction value depth cs with
  | case1 cs rest starts =>
      rw [value, skipSpaces_return_cons starts]
      exact .error _ _
  | case2 cs rest starts depth ih =>
      have short := length_of_skipSpaces starts
      have longer :
          value (depth + 1) (cs ++ ['\r']) = value (depth + 1) ('[' :: (rest ++ ['\r'])) :=
        value_congr _ (skipSpaces_return_cons starts)
      rw [Nat.succ_eq_add_one, longer, value_bracket]
      refine (passes_readArray ?_ [] rest).bind ?_
      · intro items cs
        refine (ih cs).bind ?_
        rintro ⟨item, left⟩ shorter
        exact .ok (items ++ [item], left) shorter
      · rintro ⟨items, left⟩ shorter
        refine .ok (array items, left) ?_
        dsimp only at shorter ⊢
        omega
  | case3 cs rest starts =>
      rw [value, skipSpaces_return_cons starts]
      exact .error _ _
  | case4 cs rest starts depth ih =>
      have short := length_of_skipSpaces starts
      have longer :
          value (depth + 1) (cs ++ ['\r']) = value (depth + 1) ('\x7b' :: (rest ++ ['\r'])) :=
        value_congr _ (skipSpaces_return_cons starts)
      rw [Nat.succ_eq_add_one, longer, value_brace]
      refine (passes_readObject ?_ [] rest).bind ?_
      · intro members key cs
        refine (leaves_readColon cs).bind ?_
        intro text colon
        refine (ih text).bind ?_
        rintro ⟨member, left⟩ shorter
        exact .ok (Keyed.insert key member members, left) (Nat.le_trans shorter colon)
      · rintro ⟨members, left⟩ shorter
        refine .ok (object members, left) ?_
        dsimp only at shorter ⊢
        omega
  | case5 depth cs bracket brace =>
      have short := length_skipSpaces cs
      -- Among blanks alone the carriage return is skipped too; else it stays behind the scalar.
      by_cases nothing : skipSpaces cs = []
      · rw [nothing]
        unfold value
        simp only [skipSpaces_return_nil nothing]
        exact .error _ _
      · have noBracket := starts_return bracket (by decide)
        have noBrace := starts_return brace (by decide)
        unfold value
        simp only [skipSpaces_return_more nothing]
        exact passes_readScalar.within (by omega)

/-- With a carriage return behind it a text is valid exactly if it is without, and it has the same
value. -/
theorem parseChars_return (text : List Char) :
    (∃ v, parseChars text = .ok v ∧ parseChars (text ++ ['\r']) = .ok v) ∨
      ∃ e e', parseChars text = .error e ∧ parseChars (text ++ ['\r']) = .error e' := by
  have mirrors := passes_value maxDepth text
  unfold parseChars readAll
  generalize value maxDepth text = plain at mirrors ⊢
  generalize value maxDepth (text ++ ['\r']) = longer at mirrors ⊢
  cases mirrors with
  | error e e' => exact Or.inr ⟨_, _, rfl, rfl⟩
  | ok read short =>
      simp only [behind, bind, Except.bind]
      cases rest : skipSpaces read.2 with
      | nil =>
          rw [skipSpaces_return_nil rest]
          exact Or.inl ⟨read.1, rfl, rfl⟩
      | cons c left =>
          rw [skipSpaces_return_cons rest]
          exact Or.inr ⟨_, _, rfl, rfl⟩

end Runboard.Json
