import Runboard.Proofs.Json.Ordered

set_option autoImplicit false

/-!
The members of an object as its text spells them.

A value no longer tells in which order the members of its objects came, nor whether a key came more
than once. Here they are listed as they stand in the text, their keys unescaped. Any way of reading
an object member by member comes down to this list: it succeeds exactly if the list can be read and
its members are all acceptable, one after another.
-/

namespace Runboard.Json

/-- The members of an object up to its closing brace; `fuel` bounds their number. -/
def readMembers (depth : Nat) : (fuel : Nat) → (first : Bool) → Reader (List (String × Json))
  | 0, _, cs => .error (.atByte .eofInObject cs)
  | fuel + 1, first, cs => do
    match ← nextKey first cs with
    | none => return ([], cs)
    | some quoted =>
      let (key, rest) ← readString quoted
      let (v, rest) ← value depth (← readColon rest)
      let (more, rest) ← readMembers depth fuel false rest
      return ((key, v) :: more, rest)

/-- The members of an object, from behind its opening brace to behind its closing one. -/
def spelledMembers (depth : Nat) : Reader (List (String × Json)) := fun cs => do
  let (members, rest) ← readMembers depth (cs.length + 1) true cs
  return (members, ← closeObject rest)

/-- The keys of the object that a text consists of, in the order of the text and as often as they
come. A text that is no object has none. -/
def topKeys (text : String) : List String :=
  match skipSpaces text.toList with
  | '\x7b' :: rest =>
    match spelledMembers (maxDepth - 1) rest with
    | .ok (members, _) => members.map Prod.fst
    | .error _ => []
  | _ => []

section OneMember

variable {first : Bool} {cs quoted behind rest : List Char} {key : String}

theorem foldMembers_member {σ : Type} {step : σ → String → Reader σ}
    (found : nextKey first cs = .ok (some quoted)) (named : readString quoted = .ok (key, behind))
    (fuel : Nat) (state : σ) :
    foldMembers step (fuel + 1) first state cs =
      step state key behind >>= fun later => foldMembers step fuel false later.1 later.2 := by
  simp only [foldMembers, found, named, bind, Except.bind]

theorem readMembers_member_eq_ok_iff (found : nextKey first cs = .ok (some quoted))
    (named : readString quoted = .ok (key, behind)) {depth fuel : Nat}
    {members : List (String × Json)} :
    readMembers depth (fuel + 1) first cs = .ok (members, rest) ↔
      ∃ text v left more, readColon behind = .ok text ∧ value depth text = .ok (v, left) ∧
        readMembers depth fuel false left = .ok (more, rest) ∧ members = (key, v) :: more := by
  rw [readMembers, found]
  constructor
  · intro read
    obtain ⟨_, same, read⟩ := bind_eq_ok_iff.mp read
    cases same
    obtain ⟨_, same, read⟩ := bind_eq_ok_iff.mp read
    cases named.symm.trans same
    obtain ⟨text, colon, read⟩ := bind_eq_ok_iff.mp read
    obtain ⟨⟨v, left⟩, given, read⟩ := bind_eq_ok_iff.mp read
    obtain ⟨⟨more, last⟩, later, read⟩ := bind_eq_ok_iff.mp read
    cases read
    exact ⟨text, v, left, more, colon, given, later, rfl⟩
  · rintro ⟨text, v, left, more, colon, given, later, rfl⟩
    simp only [named, colon, given, later, bind, Except.bind, pure, Except.pure]

end OneMember

section Gathering

variable {σ : Type} {depth : Nat}

/-- The step reads the value of a member, and goes on if the member is acceptable. -/
def Gathers (depth : Nat) (step : σ → String → Reader σ) (add : σ → String × Json → Option σ) :
    Prop :=
  ∀ state key cs after rest, step state key cs = .ok (after, rest) ↔
    ∃ text v, readColon cs = .ok text ∧ value depth text = .ok (v, rest) ∧
      add state (key, v) = some after

variable {step : σ → String → Reader σ} {add : σ → String × Json → Option σ}

/-- Going through an object is going through the list of its members. -/
theorem Gathers.foldMembers_eq_ok_iff (gathers : Gathers depth step add) (fuel : Nat)
    (first : Bool) {state after : σ} {cs rest : List Char} :
    foldMembers step fuel first state cs = .ok (after, rest) ↔
      ∃ members, readMembers depth fuel first cs = .ok (members, rest) ∧
        members.foldlM add state = some after := by
  induction fuel generalizing first state cs with
  | zero => simp [foldMembers, readMembers]
  | succ fuel ih =>
      cases found : nextKey first cs with
      | error e => simp [foldMembers, readMembers, found, bind, Except.bind]
      | ok next =>
          cases next with
          | none =>
              rw [foldMembers, readMembers, found]
              constructor
              · intro folded
                cases folded
                exact ⟨[], rfl, rfl⟩
              · rintro ⟨members, read, taken⟩
                cases read
                cases taken
                rfl
          | some quoted =>
              cases named : readString quoted with
              | error e => simp [foldMembers, readMembers, found, named, bind, Except.bind]
              | ok key =>
                  rw [foldMembers_member found named, bind_eq_ok_iff]
                  simp only [readMembers_member_eq_ok_iff found named]
                  constructor
                  · rintro ⟨⟨middle, left⟩, stepped, folded⟩
                    obtain ⟨text, v, colon, given, added⟩ := (gathers _ _ _ _ _).mp stepped
                    obtain ⟨more, later, taken⟩ := (ih false).mp folded
                    refine ⟨_, ⟨text, v, left, more, colon, given, later, rfl⟩, ?_⟩
                    rw [List.foldlM_cons, added]
                    exact taken
                  · rintro ⟨_, ⟨text, v, left, more, colon, given, later, rfl⟩, taken⟩
                    rw [List.foldlM_cons] at taken
                    obtain ⟨middle, added, taken⟩ := Option.bind_eq_some_iff.mp taken
                    refine ⟨(middle, left), ?_, (ih false).mpr ⟨more, later, taken⟩⟩
                    exact (gathers _ _ _ _ _).mpr ⟨text, v, colon, given, added⟩

theorem Gathers.readObject_eq_ok_iff (gathers : Gathers depth step add) {state after : σ}
    {cs rest : List Char} :
    readObject step state cs = .ok (after, rest) ↔
      ∃ members, spelledMembers depth cs = .ok (members, rest) ∧
        members.foldlM add state = some after := by
  unfold readObject spelledMembers
  simp only [bind_eq_ok_iff]
  constructor
  · rintro ⟨⟨last, left⟩, folded, _, closed, same⟩
    cases same
    obtain ⟨members, listed, taken⟩ := (gathers.foldMembers_eq_ok_iff _ _).mp folded
    exact ⟨members, ⟨(members, left), listed, rest, closed, rfl⟩, taken⟩
  · rintro ⟨members, ⟨⟨all, left⟩, listed, _, closed, same⟩, taken⟩
    cases same
    refine ⟨(after, left), ?_, rest, closed, rfl⟩
    exact (gathers.foldMembers_eq_ok_iff _ _).mpr ⟨all, listed, taken⟩

end Gathering

/-- A step that accepts every member. -/
theorem gathers_all {σ : Type} (depth : Nat) (next : σ → String × Json → σ) :
    Gathers depth (fun state key cs => do
      let (v, rest) ← value depth (← readColon cs)
      return (next state (key, v), rest)) (fun state member => some (next state member)) := by
  intro state key cs after rest
  simp only [bind_eq_ok_iff]
  constructor
  · rintro ⟨text, colon, ⟨v, left⟩, given, same⟩
    cases same
    exact ⟨text, v, colon, given, rfl⟩
  · rintro ⟨text, v, colon, given, same⟩
    cases same
    exact ⟨text, colon, (v, rest), given, rfl⟩

/-- The value of an object is the map of its members, of which the last one with a key counts. -/
theorem value_brace_eq_ok_iff {depth : Nat} {cs rest : List Char} {v : Json} :
    value (depth + 1) ('\x7b' :: cs) = .ok (v, rest) ↔
      ∃ members, spelledMembers depth cs = .ok (members, rest) ∧
        v = .object (Keyed.ofPairs members) := by
  have gathers := gathers_all depth fun (map : Keyed Json) (member : String × Json) =>
    map.insert member.1 member.2
  rw [value_brace, bind_eq_ok_iff]
  constructor
  · rintro ⟨⟨last, left⟩, read, same⟩
    cases same
    obtain ⟨members, spelled, taken⟩ := gathers.readObject_eq_ok_iff.mp read
    cases List.foldlM_pure.symm.trans taken
    exact ⟨members, spelled, rfl⟩
  · rintro ⟨members, spelled, rfl⟩
    refine ⟨(Keyed.ofPairs members, rest), ?_, rfl⟩
    exact gathers.readObject_eq_ok_iff.mpr ⟨members, spelled, List.foldlM_pure⟩

theorem foldl_append_singleton {α β : Type} (f : α → β) (items : List α) :
    items.foldl (fun seen item => seen ++ [f item]) [] = items.map f := by
  rw [List.foldl_append_eq_append, List.nil_append]
  exact List.map_eq_flatMap.symm

/-- The members of compact text are those that it was written from. -/
theorem spelledMembers_memberChars {depth : Nat} {members : List (String × Json)}
    (fits : ∀ member ∈ members, Fits depth member.2) (rest : List Char) :
    spelledMembers depth (memberChars members ++ rest) =
      .ok (members.map fun member => (member.1, member.2.canonical), rest) := by
  have gathers := gathers_all depth
    fun (seen : List (String × Json)) (member : String × Json) => seen ++ [id member]
  have steps (member : String × Json) (listed : member ∈ members) :
      StepsOverMember (fun seen key cs => do
        let (v, rest) ← value depth (← readColon cs)
        return (seen ++ [id (key, v)], rest))
        (fun seen member => seen ++ [(member.1, member.2.canonical)]) member := by
    intro seen rest ends
    have colon (cs : List Char) : readColon (':' :: cs) = .ok cs := rfl
    simp only [colon, (fits member listed).value_chars ends, bind, Except.bind, pure, Except.pure,
      id_eq]
  have read := readObject_memberChars steps [] rest
  obtain ⟨listed, spelled, taken⟩ := gathers.readObject_eq_ok_iff.mp read
  have same := Option.some.inj (List.foldlM_pure.symm.trans taken)
  rw [foldl_append_singleton, foldl_append_singleton, List.map_id] at same
  rw [spelled, same]

theorem readAll_eq_ok_iff {α : Type} {reader : Reader α} {text : List Char} {a : α} :
    readAll reader text = .ok a ↔ ∃ rest, reader text = .ok (a, rest) ∧ skipSpaces rest = [] := by
  unfold readAll
  dsimp only
  rw [mapError_eq_ok_iff, bind_eq_ok_iff]
  constructor
  · rintro ⟨⟨b, rest⟩, read, ended⟩
    dsimp only at ended
    split at ended
    · rename_i ends
      cases ended
      exact ⟨rest, read, ends⟩
    · cases ended
  · rintro ⟨rest, read, ends⟩
    refine ⟨(a, rest), read, ?_⟩
    simp only [ends]
    rfl

section Strings

variable {cs rest : List Char} {s : String}

theorem exists_quoted_of_readScalar (read : readScalar cs = .ok (.string s, rest)) :
    ∃ quoted, cs = '"' :: quoted ∧ readString quoted = .ok (s, rest) := by
  have literal {v : Json} {letters cs : List Char}
      (read : readLetters v letters cs = .ok (.string s, rest)) : .string s = v :=
    yields_readLetters (P := (· = v)) rfl letters _ _ _ read
  revert read
  fun_cases readScalar cs with
  | case1 text =>
      intro read
      cases literal read
  | case2 text =>
      intro read
      cases literal read
  | case3 text =>
      intro read
      cases literal read
  | case4 quoted =>
      intro read
      obtain ⟨_, found, same⟩ := bind_eq_ok_iff.mp read
      cases same
      exact ⟨quoted, rfl, found⟩
  | case5 text =>
      intro read
      obtain ⟨_, _, same⟩ := bind_eq_ok_iff.mp read
      cases same
  | case6 =>
      intro read
      cases read
  | case7 c text =>
      intro read
      obtain ⟨_, _, same⟩ := bind_eq_ok_iff.mp read
      cases same
  | case8 =>
      intro read
      cases read

theorem readScalar_quoted {quoted : List Char} (found : readString quoted = .ok (s, rest)) :
    readScalar ('"' :: quoted) = .ok (.string s, rest) := by
  simp only [readScalar, found, bind, Except.bind, pure, Except.pure]

/-- A value that is a string starts with a quote. -/
theorem value_eq_string_iff {depth : Nat} :
    value depth cs = .ok (.string s, rest) ↔
      ∃ quoted, skipSpaces cs = '"' :: quoted ∧ readString quoted = .ok (s, rest) := by
  constructor
  · intro read
    unfold value at read
    split at read
    · split at read
      · cases read
      · obtain ⟨_, _, same⟩ := bind_eq_ok_iff.mp read
        cases same
    · split at read
      · cases read
      · obtain ⟨_, _, same⟩ := bind_eq_ok_iff.mp read
        cases same
    · exact exists_quoted_of_readScalar read
  · rintro ⟨quoted, starts, found⟩
    have same : value depth cs = value depth ('"' :: quoted) := value_congr depth starts
    rw [same, value_of_scalar rfl (by decide) (by decide), readScalar_quoted found]

/-- Where nothing but a string is expected, the same texts are read as where any value is. -/
theorem stringValue_eq_ok_iff {expected : Expected} :
    stringValue expected cs = .ok (s, rest) ↔
      ∃ quoted, skipSpaces cs = '"' :: quoted ∧ readString quoted = .ok (s, rest) := by
  constructor
  · intro read
    unfold stringValue at read
    split at read
    · rename_i quoted starts
      exact ⟨quoted, starts, read⟩
    · cases read
    · cases read
    · obtain ⟨_, _, same⟩ := bind_eq_ok_iff.mp read
      cases same
  · rintro ⟨quoted, starts, found⟩
    simp only [stringValue, starts, found]

end Strings

section Text

variable {text : String} {rest : List Char}

/-- A text that starts like an object is read if its members can be listed and nothing follows. -/
theorem parse_eq_ok_iff (opens : skipSpaces text.toList = '\x7b' :: rest) {f : Json} :
    parse text = .ok f ↔
      ∃ members last, spelledMembers (maxDepth - 1) rest = .ok (members, last) ∧
        skipSpaces last = [] ∧ f = .object (Keyed.ofPairs members) := by
  have same : value maxDepth text.toList = value (maxDepth - 1 + 1) ('\x7b' :: rest) :=
    value_congr maxDepth opens
  rw [parse, parseChars, readAll_eq_ok_iff, same]
  simp only [value_brace_eq_ok_iff]
  constructor
  · rintro ⟨last, ⟨members, spelled, object⟩, ends⟩
    exact ⟨members, last, spelled, ends, object⟩
  · rintro ⟨members, last, spelled, ends, object⟩
    exact ⟨last, ⟨members, spelled, object⟩, ends⟩

theorem topKeys_eq (opens : skipSpaces text.toList = '\x7b' :: rest)
    {members : List (String × Json)} {last : List Char}
    (spelled : spelledMembers (maxDepth - 1) rest = .ok (members, last)) :
    topKeys text = members.map Prod.fst := by
  simp only [topKeys, opens, spelled]

/-- Compact text has the keys of the members that it was written from, none of them left out. -/
theorem topKeys_text {members : List (String × Json)}
    (fits : ∀ member ∈ members, Fits (maxDepth - 1) member.2) :
    topKeys (object members).text = members.map Prod.fst := by
  have opens : skipSpaces (object members).text.toList = '\x7b' :: (memberChars members ++ []) := by
    rw [text, String.toList_ofList, List.append_nil]
    rfl
  rw [topKeys_eq opens (spelledMembers_memberChars fits []), List.map_map]
  rfl

end Text

end Runboard.Json
