import Runboard.Proofs.Json.Trailing
import Runboard.Proofs.Keyed

set_option autoImplicit false

namespace Runboard.Json

/-- The keys of every object increase, from the outermost object to the innermost ones. -/
inductive Ordered : Json → Prop
  | null : Ordered .null
  | bool (b : Bool) : Ordered (.bool b)
  | number (n : Numeral) : Ordered (.number n)
  | string (s : String) : Ordered (.string s)
  | array {items : List Json} (all : ∀ item ∈ items, Ordered item) : Ordered (.array items)
  | object {members : Keyed Json} (sorted : members.Sorted)
      (all : ∀ member ∈ members, Ordered member.2) : Ordered (.object members)

theorem Ordered.canonical_eq {v : Json} (ordered : Ordered v) : v.canonical = v := by
  induction ordered with
  | null => rfl
  | bool b => rfl
  | number n => rfl
  | string s => rfl
  | array all ih =>
      rw [canonical, canonicalItems_eq_map, List.map_congr_left ih, List.map_id']
  | @object members sorted all ih =>
      have same : canonicalMembers members = members := by
        rw [canonicalMembers_eq_map]
        refine (List.map_congr_left fun member listed => ?_).trans members.map_id
        rw [ih member listed]
        rfl
      rw [canonical, same, sorted.ofPairs_eq]

/-- The text of an ordered value is read back as the value. -/
theorem Ordered.parse_text {v : Json} (ordered : Ordered v) (fits : Fits maxDepth v) :
    parse v.text = .ok v := by
  rw [parse, text, String.toList_ofList, fits.parseChars_chars, ordered.canonical_eq]

theorem Ordered.eq_of_text {v w : Json} (left : Ordered v) (right : Ordered w)
    (leftFits : Fits maxDepth v) (rightFits : Fits maxDepth w) (same : v.text = w.text) :
    v = w := by
  have read := left.parse_text leftFits
  rw [same, right.parse_text rightFits] at read
  exact (Except.ok.inj read).symm

/-! What is read is ordered. -/

/-- Whatever the reader reads has the property. -/
def Yields {α : Type} (P : α → Prop) (reader : Reader α) : Prop :=
  ∀ cs rest a, reader cs = .ok (a, rest) → P a

section Folds

variable {σ : Type} {P : σ → Prop}

theorem yields_foldElements {step : σ → Reader σ} (keeps : ∀ state, P state → Yields P (step state))
    (fuel : Nat) (first : Bool) {state : σ} (holds : P state) :
    Yields P (foldElements step fuel first state) := by
  induction fuel generalizing first state with
  | zero =>
      intro cs rest last read
      cases read
  | succ fuel ih =>
      intro cs rest last read
      rw [foldElements] at read
      obtain ⟨next, found, read⟩ := bind_eq_ok_iff.mp read
      cases next with
      | none =>
          cases read
          exact holds
      | some element =>
          obtain ⟨later, taken, read⟩ := bind_eq_ok_iff.mp read
          exact ih false (keeps state holds _ _ _ taken) _ _ _ read

theorem yields_readArray {step : σ → Reader σ} (keeps : ∀ state, P state → Yields P (step state))
    {state : σ} (holds : P state) : Yields P (readArray step state) := by
  intro cs rest last read
  obtain ⟨folded, taken, read⟩ := bind_eq_ok_iff.mp read
  obtain ⟨left, closed, read⟩ := bind_eq_ok_iff.mp read
  cases read
  exact yields_foldElements keeps _ true holds _ _ _ taken

theorem yields_foldMembers {step : σ → String → Reader σ}
    (keeps : ∀ state key, P state → Yields P (step state key)) (fuel : Nat) (first : Bool)
    {state : σ} (holds : P state) : Yields P (foldMembers step fuel first state) := by
  induction fuel generalizing first state with
  | zero =>
      intro cs rest last read
      cases read
  | succ fuel ih =>
      intro cs rest last read
      rw [foldMembers] at read
      obtain ⟨next, found, read⟩ := bind_eq_ok_iff.mp read
      cases next with
      | none =>
          cases read
          exact holds
      | some member =>
          obtain ⟨key, named, read⟩ := bind_eq_ok_iff.mp read
          obtain ⟨later, taken, read⟩ := bind_eq_ok_iff.mp read
          exact ih false (keeps state key.1 holds _ _ _ taken) _ _ _ read

theorem yields_readObject {step : σ → String → Reader σ}
    (keeps : ∀ state key, P state → Yields P (step state key)) {state : σ} (holds : P state) :
    Yields P (readObject step state) := by
  intro cs rest last read
  obtain ⟨folded, taken, read⟩ := bind_eq_ok_iff.mp read
  obtain ⟨left, closed, read⟩ := bind_eq_ok_iff.mp read
  cases read
  exact yields_foldMembers keeps _ true holds _ _ _ taken

end Folds

theorem yields_readLetters {P : Json → Prop} {v : Json} (holds : P v) (letters : List Char) :
    Yields P (readLetters v letters) := by
  intro cs rest a read
  fun_induction readLetters v letters cs with
  | case1 =>
      cases read
      exact holds
  | case2 => cases read
  | case3 letters c more ih => exact ih read
  | case4 => cases read

theorem yields_readScalar : Yields Ordered readScalar := by
  intro cs
  fun_cases readScalar cs with
  | case1 text => exact yields_readLetters .null _ text
  | case2 text => exact yields_readLetters (.bool true) _ text
  | case3 text => exact yields_readLetters (.bool false) _ text
  | case4 text =>
      intro rest a read
      obtain ⟨s, _, read⟩ := bind_eq_ok_iff.mp read
      cases read
      exact .string s.1
  | case5 text =>
      intro rest a read
      obtain ⟨n, _, read⟩ := bind_eq_ok_iff.mp read
      cases read
      exact .number n.1
  | case6 =>
      intro rest a read
      cases read
  | case7 c text =>
      intro rest a read
      obtain ⟨n, _, read⟩ := bind_eq_ok_iff.mp read
      cases read
      exact .number n.1
  | case8 c text =>
      intro rest a read
      cases read

theorem yields_value (depth : Nat) : Yields Ordered (value depth) := by
  intro cs
  fun_induction value depth cs with
  | case1 cs text starts =>
      intro rest a read
      cases read
  | case2 cs text starts depth ih =>
      intro rest a read
      obtain ⟨items, taken, read⟩ := bind_eq_ok_iff.mp read
      cases read
      refine .array (yields_readArray (P := fun items => ∀ item ∈ items, Ordered item) ?_
        (List.forall_mem_nil _) _ _ _ taken)
      intro items all cs rest more read
      obtain ⟨item, one, read⟩ := bind_eq_ok_iff.mp read
      cases read
      exact List.forall_mem_append.mpr ⟨all, List.forall_mem_singleton.mpr (ih cs _ _ one)⟩
  | case3 cs text starts =>
      intro rest a read
      cases read
  | case4 cs text starts depth ih =>
      intro rest a read
      obtain ⟨members, taken, read⟩ := bind_eq_ok_iff.mp read
      cases read
      suffices placed : Keyed.Sorted members.1 ∧ ∀ member ∈ members.1, Ordered member.2 from
        .object placed.1 placed.2
      refine yields_readObject
        (P := fun members => Keyed.Sorted members ∧ ∀ member ∈ members, Ordered member.2) ?_
        ⟨.nil, List.forall_mem_nil _⟩ _ _ _ taken
      -- A member goes to its place among those that are there already.
      intro members key both cs rest more read
      obtain ⟨text, colon, read⟩ := bind_eq_ok_iff.mp read
      obtain ⟨member, one, read⟩ := bind_eq_ok_iff.mp read
      cases read
      refine ⟨both.1.insert key member.1, fun entry listed => ?_⟩
      rcases Keyed.mem_insert listed with same | earlier
      · rw [same]
        exact ih text _ _ one
      · exact both.2 entry earlier
  | case5 depth cs bracket brace => exact yields_readScalar _

/-- Whatever is read from a text is ordered. -/
theorem ordered_of_parseChars {text : List Char} {v : Json} (parsed : parseChars text = .ok v) :
    Ordered v := by
  unfold parseChars readAll at parsed
  cases read : value maxDepth text with
  | error e =>
      rw [read] at parsed
      cases parsed
  | ok first =>
      have ordered := yields_value maxDepth _ _ _ read
      rw [read] at parsed
      simp only [bind, Except.bind] at parsed
      split at parsed
      · cases parsed
        exact ordered
      · cases parsed

end Runboard.Json
