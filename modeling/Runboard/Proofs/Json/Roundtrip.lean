import Runboard.Proofs.Json.Lexeme

set_option autoImplicit false

namespace Runboard.Json

mutual

/-- The value with the members of its objects in the order of their keys. -/
def canonical : Json → Json
  | .null => .null
  | .bool b => .bool b
  | .number n => .number n
  | .string s => .string s
  | .array items => .array (canonicalItems items)
  | .object members => .object (Keyed.ofPairs (canonicalMembers members))

def canonicalItems : List Json → List Json
  | [] => []
  | item :: rest => item.canonical :: canonicalItems rest

def canonicalMembers : List (String × Json) → List (String × Json)
  | [] => []
  | (key, v) :: rest => (key, v.canonical) :: canonicalMembers rest

end

theorem canonicalItems_eq_map (items : List Json) :
    canonicalItems items = items.map canonical := by
  induction items with
  | nil => rfl
  | cons item rest ih => rw [canonicalItems, ih, List.map_cons]

theorem canonicalMembers_eq_map (members : List (String × Json)) :
    canonicalMembers members = members.map fun member => (member.1, member.2.canonical) := by
  induction members with
  | nil => rfl
  | cons member rest ih => rw [canonicalMembers, ih, List.map_cons]

/-- The value has no floats, its integers are words, and at most `depth` arrays and objects are
open at once. -/
inductive Fits : (depth : Nat) → Json → Prop
  | null {depth : Nat} : Fits depth .null
  | bool {depth : Nat} (b : Bool) : Fits depth (.bool b)
  | integer {depth : Nat} {n : Int} (word : IsWord n) : Fits depth (.number (.integer n))
  | string {depth : Nat} (s : String) : Fits depth (.string s)
  | array {depth : Nat} {items : List Json} (all : ∀ item ∈ items, Fits depth item) :
      Fits (depth + 1) (.array items)
  | object {depth : Nat} {members : List (String × Json)}
      (all : ∀ member ∈ members, Fits depth member.2) : Fits (depth + 1) (.object members)

/-- The text starts with neither a blank nor a closing bracket. -/
def Opens (cs : List Char) : Prop := ∃ c rest, cs = c :: rest ∧ isSpace c = false ∧ c ≠ ']'

theorem Opens.append {cs : List Char} (opens : Opens cs) (rest : List Char) :
    Opens (cs ++ rest) := by
  obtain ⟨c, more, rfl, blank, bracket⟩ := opens
  exact ⟨c, more ++ rest, rfl, blank, bracket⟩

theorem skipSpaces_cons {c : Char} (visible : isSpace c = false) (rest : List Char) :
    skipSpaces (c :: rest) = c :: rest := by
  simp [skipSpaces, visible]

theorem Opens.skipSpaces_eq {cs : List Char} (opens : Opens cs) : skipSpaces cs = cs := by
  obtain ⟨c, rest, rfl, visible, _⟩ := opens
  exact skipSpaces_cons visible rest

theorem ne_of_numeric {c d : Char} (numeric : c = '-' ∨ c.isDigit = true) (minus : d ≠ '-')
    (digit : d.isDigit = false) : c ≠ d := by
  rintro rfl
  rcases numeric with same | digit'
  · exact minus same
  · exact Bool.noConfusion (digit.symm.trans digit')

theorem isSpace_of_numeric {c : Char} (numeric : c = '-' ∨ c.isDigit = true) :
    isSpace c = false := by
  have apart (d : Char) (minus : d ≠ '-') (digit : d.isDigit = false) : (c == d) = false :=
    beq_eq_false_iff_ne.mpr (ne_of_numeric numeric minus digit)
  simp only [isSpace, apart ' ' (by decide) rfl, apart '\n' (by decide) rfl,
    apart '\t' (by decide) rfl, apart '\r' (by decide) rfl, Bool.or_self]

theorem Fits.opens {depth : Nat} {v : Json} (fits : Fits depth v) : Opens v.chars := by
  cases fits with
  | null => exact ⟨_, _, rfl, rfl, by decide⟩
  | bool b => cases b <;> exact ⟨_, _, rfl, rfl, by decide⟩
  | @integer _ n word =>
      obtain ⟨c, more, written, numeric⟩ := exists_integerText n
      exact ⟨c, more, written, isSpace_of_numeric numeric,
        ne_of_numeric numeric (by decide) rfl⟩
  | string s => exact ⟨_, _, rfl, rfl, by decide⟩
  | array all => exact ⟨_, _, rfl, rfl, by decide⟩
  | object all => exact ⟨_, _, rfl, rfl, by decide⟩

/-! Arrays. -/

/-- The text of an array behind one of its elements. -/
def itemTail : List Json → List Char
  | [] => [']']
  | item :: rest => ',' :: itemChars (item :: rest)

theorem itemChars_cons (item : Json) (rest : List Json) :
    itemChars (item :: rest) = item.chars ++ itemTail rest := by
  cases rest <;> rfl

theorem endsNumber_itemTail (items : List Json) (rest : List Char) :
    EndsNumber (itemTail items ++ rest) := by
  cases items with
  | nil => exact .cons (by decide) rest
  | cons => exact .cons (by decide) _

theorem nextElement_first {cs : List Char} (opens : Opens cs) :
    nextElement true cs = .ok (some cs) := by
  obtain ⟨c, rest, rfl, visible, bracket⟩ := opens
  simp [nextElement, skipSpaces_cons visible]

theorem nextElement_comma {cs : List Char} (opens : Opens cs) :
    nextElement false (',' :: cs) = .ok (some cs) := by
  have comma : skipSpaces (',' :: cs) = ',' :: cs := rfl
  have behind := opens.skipSpaces_eq
  obtain ⟨c, rest, rfl, _, bracket⟩ := opens
  simp [nextElement, comma, behind, bracket]

section

variable {σ : Type} {step : σ → Reader σ} {next : σ → Json → σ}

/-- The step takes exactly one item off the text. -/
def StepsOver (step : σ → Reader σ) (next : σ → Json → σ) (item : Json) : Prop :=
  ∀ state rest, EndsNumber rest → step state (item.chars ++ rest) = .ok (next state item, rest)

theorem foldElements_next {first : Bool} {fuel : Nat} {state after : σ}
    {cs element rest : List Char} (found : nextElement first cs = .ok (some element))
    (stepped : step state element = .ok (after, rest)) :
    foldElements step (fuel + 1) first state cs = foldElements step fuel false after rest := by
  simp only [foldElements, found, stepped, bind, Except.bind]

theorem foldElements_itemTail {items : List Json} (opens : ∀ item ∈ items, Opens item.chars)
    (steps : ∀ item ∈ items, StepsOver step next item) {fuel : Nat}
    (enough : items.length < fuel) (state : σ) (rest : List Char) :
    foldElements step fuel false state (itemTail items ++ rest) =
      .ok (items.foldl next state, ']' :: rest) := by
  induction items generalizing fuel state with
  | nil =>
      obtain ⟨fuel, rfl⟩ := Nat.exists_eq_add_one_of_ne_zero (Nat.ne_zero_of_lt enough)
      rfl
  | cons item items ih =>
      obtain ⟨fuel, rfl⟩ := Nat.exists_eq_add_one_of_ne_zero (Nat.ne_zero_of_lt enough)
      obtain ⟨here, opens⟩ := List.forall_mem_cons.mp opens
      obtain ⟨stepped, steps⟩ := List.forall_mem_cons.mp steps
      have comma := nextElement_comma (here.append (itemTail items ++ rest))
      rw [itemTail, itemChars_cons, List.cons_append, List.append_assoc,
        foldElements_next comma (stepped state _ (endsNumber_itemTail items rest))]
      exact ih opens steps (Nat.lt_of_succ_lt_succ enough) (next state item)

theorem foldElements_itemChars {items : List Json} (opens : ∀ item ∈ items, Opens item.chars)
    (steps : ∀ item ∈ items, StepsOver step next item) {fuel : Nat}
    (enough : items.length < fuel) (state : σ) (rest : List Char) :
    foldElements step fuel true state (itemChars items ++ rest) =
      .ok (items.foldl next state, ']' :: rest) := by
  obtain ⟨fuel, rfl⟩ := Nat.exists_eq_add_one_of_ne_zero (Nat.ne_zero_of_lt enough)
  cases items with
  | nil => rfl
  | cons item items =>
      obtain ⟨here, opens⟩ := List.forall_mem_cons.mp opens
      obtain ⟨stepped, steps⟩ := List.forall_mem_cons.mp steps
      have first := nextElement_first (here.append (itemTail items ++ rest))
      rw [itemChars_cons, List.append_assoc,
        foldElements_next first (stepped state _ (endsNumber_itemTail items rest))]
      exact foldElements_itemTail opens steps (Nat.lt_of_succ_lt_succ enough) (next state item) rest

theorem length_le_itemChars {items : List Json} (opens : ∀ item ∈ items, Opens item.chars) :
    items.length ≤ (itemChars items).length := by
  induction items with
  | nil => exact Nat.zero_le _
  | cons item items ih =>
      have later := ih fun other member => opens other (List.mem_cons_of_mem item member)
      obtain ⟨c, more, written, _⟩ := opens item List.mem_cons_self
      have tail : (itemChars items).length ≤ (itemTail items).length := by
        cases items with
        | nil => exact Nat.le_refl 1
        | cons => exact Nat.le_add_right _ 1
      rw [itemChars_cons, written]
      simp only [List.length_cons, List.length_append]
      omega

theorem readArray_itemChars {items : List Json} (opens : ∀ item ∈ items, Opens item.chars)
    (steps : ∀ item ∈ items, StepsOver step next item) (state : σ) (rest : List Char) :
    readArray step state (itemChars items ++ rest) = .ok (items.foldl next state, rest) := by
  have length := length_le_itemChars opens
  have enough : items.length < (itemChars items ++ rest).length + 1 := by
    simp only [List.length_append]
    omega
  have folded := foldElements_itemChars opens steps enough state rest
  have closed : closeArray (']' :: rest) = .ok rest := rfl
  simp only [readArray, folded, closed, bind, Except.bind, pure, Except.pure]

end

/-! Objects. -/

/-- The text of an object behind one of its members. -/
def memberTail : List (String × Json) → List Char
  | [] => ['\x7d']
  | member :: rest => ',' :: memberChars (member :: rest)

theorem memberChars_cons (key : String) (v : Json) (rest : List (String × Json)) :
    memberChars ((key, v) :: rest) = stringChars key ++ ':' :: (v.chars ++ memberTail rest) := by
  cases rest <;> rfl

theorem endsNumber_memberTail (members : List (String × Json)) (rest : List Char) :
    EndsNumber (memberTail members ++ rest) := by
  cases members with
  | nil => exact .cons (by decide) rest
  | cons => exact .cons (by decide) _

theorem nextKey_first (cs : List Char) : nextKey true ('"' :: cs) = .ok (some cs) := rfl

theorem nextKey_comma (cs : List Char) : nextKey false (',' :: '"' :: cs) = .ok (some cs) := rfl

section

variable {σ : Type} {step : σ → String → Reader σ} {next : σ → String × Json → σ}

/-- Behind the key of a member, the step takes exactly the rest of the member off the text. -/
def StepsOverMember (step : σ → String → Reader σ) (next : σ → String × Json → σ)
    (member : String × Json) : Prop :=
  ∀ state rest, EndsNumber rest →
    step state member.1 (':' :: (member.2.chars ++ rest)) = .ok (next state member, rest)

theorem foldMembers_next {first : Bool} {fuel : Nat} {state after : σ} {key : String}
    {cs behind rest : List Char}
    (found : nextKey first cs = .ok (some (key.toList.flatMap escapedChar ++ '"' :: behind)))
    (stepped : step state key behind = .ok (after, rest)) :
    foldMembers step (fuel + 1) first state cs = foldMembers step fuel false after rest := by
  simp only [foldMembers, found, readString_escaped, stepped, bind, Except.bind]

theorem memberChars_append (key : String) (v : Json) (members : List (String × Json))
    (rest : List Char) :
    memberChars ((key, v) :: members) ++ rest =
      '"' :: (key.toList.flatMap escapedChar ++
        '"' :: ':' :: (v.chars ++ (memberTail members ++ rest))) := by
  rw [memberChars_cons, List.append_assoc, stringChars_append, List.cons_append,
    List.append_assoc]

theorem foldMembers_memberTail {members : List (String × Json)}
    (steps : ∀ member ∈ members, StepsOverMember step next member) {fuel : Nat}
    (enough : members.length < fuel) (state : σ) (rest : List Char) :
    foldMembers step fuel false state (memberTail members ++ rest) =
      .ok (members.foldl next state, '\x7d' :: rest) := by
  induction members generalizing fuel state with
  | nil =>
      obtain ⟨fuel, rfl⟩ := Nat.exists_eq_add_one_of_ne_zero (Nat.ne_zero_of_lt enough)
      rfl
  | cons member members ih =>
      obtain ⟨fuel, rfl⟩ := Nat.exists_eq_add_one_of_ne_zero (Nat.ne_zero_of_lt enough)
      obtain ⟨stepped, steps⟩ := List.forall_mem_cons.mp steps
      rw [memberTail, List.cons_append, memberChars_append, foldMembers_next (nextKey_comma _)
        (stepped state _ (endsNumber_memberTail members rest))]
      exact ih steps (Nat.lt_of_succ_lt_succ enough) (next state member)

theorem foldMembers_memberChars {members : List (String × Json)}
    (steps : ∀ member ∈ members, StepsOverMember step next member) {fuel : Nat}
    (enough : members.length < fuel) (state : σ) (rest : List Char) :
    foldMembers step fuel true state (memberChars members ++ rest) =
      .ok (members.foldl next state, '\x7d' :: rest) := by
  obtain ⟨fuel, rfl⟩ := Nat.exists_eq_add_one_of_ne_zero (Nat.ne_zero_of_lt enough)
  cases members with
  | nil => rfl
  | cons member members =>
      obtain ⟨stepped, steps⟩ := List.forall_mem_cons.mp steps
      rw [memberChars_append, foldMembers_next (nextKey_first _)
        (stepped state _ (endsNumber_memberTail members rest))]
      exact foldMembers_memberTail steps (Nat.lt_of_succ_lt_succ enough) (next state member) rest

theorem length_le_memberChars (members : List (String × Json)) :
    members.length ≤ (memberChars members).length := by
  induction members with
  | nil => exact Nat.zero_le _
  | cons member members ih =>
      have tail : (memberChars members).length ≤ (memberTail members).length := by
        cases members with
        | nil => exact Nat.le_refl 1
        | cons => exact Nat.le_add_right _ 1
      rw [memberChars_cons]
      simp only [List.length_cons, List.length_append]
      omega

theorem readObject_memberChars {members : List (String × Json)}
    (steps : ∀ member ∈ members, StepsOverMember step next member) (state : σ)
    (rest : List Char) :
    readObject step state (memberChars members ++ rest) = .ok (members.foldl next state, rest) := by
  have length := length_le_memberChars members
  have enough : members.length < (memberChars members ++ rest).length + 1 := by
    simp only [List.length_append]
    omega
  have folded := foldMembers_memberChars steps enough state rest
  have closed : closeObject ('\x7d' :: rest) = .ok rest := rfl
  simp only [readObject, folded, closed, bind, Except.bind, pure, Except.pure]

end

/-! Values. -/

theorem value_of_scalar {depth : Nat} {c : Char} {cs : List Char} (visible : isSpace c = false)
    (bracket : c ≠ '[') (brace : c ≠ '\x7b') : value depth (c :: cs) = readScalar (c :: cs) := by
  unfold value
  rw [skipSpaces_cons visible]
  split
  · rename_i starts
    exact absurd (List.cons.inj starts).1 bracket
  · rename_i starts
    exact absurd (List.cons.inj starts).1 brace
  · rfl

theorem value_bracket (depth : Nat) (cs : List Char) :
    value (depth + 1) ('[' :: cs) = (do
      let (items, rest) ← readArray (fun items cs => do
        let (item, rest) ← value depth cs
        return (items ++ [item], rest)) [] cs
      return (.array items, rest)) := rfl

theorem value_brace (depth : Nat) (cs : List Char) :
    value (depth + 1) ('\x7b' :: cs) = (do
      let (members, rest) ← readObject (fun members key cs => do
        let (member, rest) ← value depth (← readColon cs)
        return (Keyed.insert key member members, rest)) [] cs
      return (.object members, rest)) := rfl

/-- What is read for the items of an array, one after another. -/
theorem foldl_append_canonical (items seen : List Json) :
    items.foldl (fun seen item => seen ++ [item.canonical]) seen =
      seen ++ items.map canonical := by
  induction items generalizing seen with
  | nil => simp
  | cons item items ih => simp [ih]

theorem Fits.value_chars {depth : Nat} {v : Json} (fits : Fits depth v) {rest : List Char}
    (ends : EndsNumber rest) : value depth (v.chars ++ rest) = .ok (v.canonical, rest) := by
  induction fits generalizing rest with
  | null =>
      have text : Json.null.chars ++ rest = 'n' :: 'u' :: 'l' :: 'l' :: rest := rfl
      rw [text, value_of_scalar rfl (by decide) (by decide)]
      rfl
  | bool b =>
      cases b with
      | false =>
          have text : (Json.bool false).chars ++ rest =
              'f' :: 'a' :: 'l' :: 's' :: 'e' :: rest := rfl
          rw [text, value_of_scalar rfl (by decide) (by decide)]
          rfl
      | true =>
          have text : (Json.bool true).chars ++ rest = 't' :: 'r' :: 'u' :: 'e' :: rest := rfl
          rw [text, value_of_scalar rfl (by decide) (by decide)]
          rfl
  | @integer _ n word =>
      obtain ⟨c, more, written, numeric⟩ := exists_integerText n
      have read := readScalar_integerText word ends
      have text : (Json.number (.integer n)).chars = c :: more := written
      rw [written, List.cons_append] at read
      rw [text, List.cons_append, value_of_scalar (isSpace_of_numeric numeric)
        (ne_of_numeric numeric (by decide) rfl) (ne_of_numeric numeric (by decide) rfl), read]
      rfl
  | string s =>
      have text : (Json.string s).chars ++ rest =
          '"' :: (s.toList.flatMap escapedChar ++ '"' :: rest) := stringChars_append s rest
      rw [text, value_of_scalar rfl (by decide) (by decide)]
      simp only [readScalar, readString_escaped, bind, Except.bind, pure, Except.pure, canonical]
  | @array depth items all ih =>
      have steps (item : Json) (member : item ∈ items) :
          StepsOver (fun items cs => do
            let (item, rest) ← value depth cs
            return (items ++ [item], rest)) (fun seen item => seen ++ [item.canonical]) item := by
        intro seen rest ends
        simp only [ih item member ends, bind, Except.bind, pure, Except.pure]
      have read := readArray_itemChars (fun item member => (all item member).opens) steps [] rest
      have text : (Json.array items).chars ++ rest = '[' :: (itemChars items ++ rest) := rfl
      rw [text, value_bracket, read, foldl_append_canonical, List.nil_append,
        ← canonicalItems_eq_map]
      rfl
  | @object depth members all ih =>
      have steps (member : String × Json) (listed : member ∈ members) :
          StepsOverMember (fun members key cs => do
            let (member, rest) ← value depth (← readColon cs)
            return (Keyed.insert key member members, rest))
            (fun seen member => seen.insert member.1 member.2.canonical) member := by
        intro seen rest ends
        have colon (cs : List Char) : readColon (':' :: cs) = .ok cs := rfl
        simp only [colon, ih member listed ends, bind, Except.bind, pure, Except.pure]
      have read := readObject_memberChars steps [] rest
      have text : (Json.object members).chars ++ rest = '\x7b' :: (memberChars members ++ rest) :=
        rfl
      rw [text, value_brace, read, canonical, canonicalMembers_eq_map, Keyed.ofPairs,
        List.foldl_map]
      rfl

/-- The text of a value, read as a whole, gives the value in canonical form. -/
theorem Fits.parseChars_chars {v : Json} (fits : Fits maxDepth v) :
    parseChars v.chars = .ok v.canonical := by
  have read := fits.value_chars EndsNumber.nil
  rw [List.append_nil] at read
  have finished : skipSpaces [] = [] := rfl
  simp only [parseChars, readAll, read, bind, Except.bind, pure, Except.pure, finished]
  rfl

/-! The text stands on one line. -/

theorem itemChars_printed {items : List Json}
    (all : ∀ item ∈ items, ∀ c ∈ item.chars, 0x20 ≤ c.toNat) :
    ∀ c ∈ itemChars items, 0x20 ≤ c.toNat := by
  induction items with
  | nil => simp [itemChars]
  | cons item items ih =>
      obtain ⟨here, all⟩ := List.forall_mem_cons.mp all
      have later := ih all
      have tail : ∀ c ∈ itemTail items, 0x20 ≤ c.toNat := by
        cases items with
        | nil => simp [itemTail]
        | cons => exact List.forall_mem_cons.mpr ⟨by decide, later⟩
      rw [itemChars_cons]
      exact List.forall_mem_append.mpr ⟨here, tail⟩

theorem memberChars_printed {members : List (String × Json)}
    (all : ∀ member ∈ members, ∀ c ∈ member.2.chars, 0x20 ≤ c.toNat) :
    ∀ c ∈ memberChars members, 0x20 ≤ c.toNat := by
  induction members with
  | nil => simp [memberChars]
  | cons member members ih =>
      obtain ⟨here, all⟩ := List.forall_mem_cons.mp all
      have later := ih all
      have tail : ∀ c ∈ memberTail members, 0x20 ≤ c.toNat := by
        cases members with
        | nil => simp [memberTail]
        | cons => exact List.forall_mem_cons.mpr ⟨by decide, later⟩
      rw [memberChars_cons]
      exact List.forall_mem_append.mpr ⟨stringChars_printed member.1,
        List.forall_mem_cons.mpr ⟨by decide, List.forall_mem_append.mpr ⟨here, tail⟩⟩⟩

theorem Fits.printed {depth : Nat} {v : Json} (fits : Fits depth v) :
    ∀ c ∈ v.chars, 0x20 ≤ c.toNat := by
  induction fits with
  | null =>
      have all : Json.null.chars.all (0x20 ≤ ·.toNat) = true := by decide
      simpa using all
  | bool b =>
      have all : (Json.bool b).chars.all (0x20 ≤ ·.toNat) = true := by cases b <;> decide
      simpa using all
  | @integer _ n word => exact integerText_printed n
  | string s => exact stringChars_printed s
  | array all ih => exact List.forall_mem_cons.mpr ⟨by decide, itemChars_printed ih⟩
  | object all ih => exact List.forall_mem_cons.mpr ⟨by decide, memberChars_printed ih⟩

end Runboard.Json
