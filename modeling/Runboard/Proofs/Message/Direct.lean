import Runboard.Message.Reader
import Runboard.Proofs.Json.Spelling
import Runboard.Proofs.Message.Schema

set_option autoImplicit false

namespace Runboard

theorem Field.key_ne_tagKey (field : Field) : field.key ≠ Kind.tagKey := by
  cases field <;> decide

namespace Message

theorem readKind_eq_ok_iff {depth : Nat} {cs rest : List Char} {kind : Kind} :
    readKind cs = .ok (kind, rest) ↔ Json.value depth cs = .ok (.string kind.tag, rest) := by
  unfold readKind
  rw [Json.bind_eq_ok_iff, Json.value_eq_string_iff, ← Json.stringValue_eq_ok_iff]
  constructor
  · rintro ⟨⟨tag, left⟩, read, named⟩
    dsimp only at named
    split at named
    · rename_i other known
      cases named
      rw [← Kind.ofTag?_eq_some_iff.mp known]
      exact read
    · cases named
  · intro read
    have known : Kind.ofTag? kind.tag = some kind := Kind.ofTag?_eq_some_iff.mpr rfl
    refine ⟨(kind.tag, rest), read, ?_⟩
    simp only [known, pure, Except.pure]

/-- What a member adds: the tag comes once and names a kind, all else is put by. -/
def Parts.add (parts : Parts) (member : String × Json) : Option Parts :=
  if member.1 = Kind.tagKey then
    if parts.kind.isSome then none
    else (member.2.string?.bind Kind.ofTag?).map fun kind => { parts with kind := some kind }
  else some { parts with members := parts.members ++ [member] }

theorem Parts.add_tag_eq_some_iff {parts after : Parts} (untagged : parts.kind = none) {v : Json} :
    parts.add (Kind.tagKey, v) = some after ↔
      ∃ kind : Kind, v = .string kind.tag ∧ after = { parts with kind := some kind } := by
  simp only [add, untagged, Option.isSome_none, Bool.false_eq_true, ↓reduceIte,
    Option.map_eq_some_iff, Option.bind_eq_some_iff, Json.string?_eq_some_iff,
    Kind.ofTag?_eq_some_iff]
  constructor
  · rintro ⟨kind, ⟨_, rfl, rfl⟩, rfl⟩
    exact ⟨kind, rfl, rfl⟩
  · rintro ⟨kind, rfl, rfl⟩
    exact ⟨kind, ⟨_, rfl, rfl⟩, rfl⟩

theorem gathers_readMember : Json.Gathers (Json.maxDepth - 1) readMember Parts.add := by
  intro parts key cs after rest
  unfold readMember
  by_cases tag : key = Kind.tagKey
  · subst tag
    cases untagged : parts.kind with
    | some kind => simp [Parts.add, untagged]
    | none =>
        simp only [↓reduceIte, Option.isSome_none, Bool.false_eq_true, Json.bind_eq_ok_iff,
          Parts.add_tag_eq_some_iff untagged]
        constructor
        · rintro ⟨text, colon, ⟨kind, left⟩, read, same⟩
          cases same
          exact ⟨text, _, colon, readKind_eq_ok_iff.mp read, kind, rfl, rfl⟩
        · rintro ⟨text, _, colon, read, kind, rfl, rfl⟩
          exact ⟨text, colon, (kind, rest), readKind_eq_ok_iff.mpr read, rfl⟩
  · simp only [tag, ↓reduceIte, Json.bind_eq_ok_iff, Parts.add]
    constructor
    · rintro ⟨text, colon, ⟨v, left⟩, read, same⟩
      cases same
      exact ⟨text, v, colon, read, rfl⟩
    · rintro ⟨text, v, colon, read, same⟩
      cases same
      exact ⟨text, colon, (v, rest), read, rfl⟩

/-- The members of an object without its tags. -/
def body (members : List (String × Json)) : List (String × Json) :=
  members.filter fun member => member.1 ≠ Kind.tagKey

theorem body_cons (member : String × Json) (rest : List (String × Json)) :
    body (member :: rest) =
      if member.1 = Kind.tagKey then body rest else member :: body rest := by
  by_cases tag : member.1 = Kind.tagKey <;> simp [body, tag]

/-- Members are all acceptable if there is no more than one tag, a known one, in what has been read
and what is still to come. -/
theorem foldlM_add_eq_some_iff {members : List (String × Json)} {parts after : Parts} :
    members.foldlM Parts.add parts = some after ↔
      after.members = parts.members ++ body members ∧
        (Keyed.entries Kind.tagKey members = [] ∧ after.kind = parts.kind ∨
          parts.kind = none ∧ ∃ kind : Kind,
            Keyed.entries Kind.tagKey members = [.string kind.tag] ∧ after.kind = some kind) := by
  induction members generalizing parts with
  | nil =>
      have same : some parts = some after ↔
          after.members = parts.members ∧ after.kind = parts.kind := by
        cases parts
        cases after
        grind
      simpa [body, Keyed.entries] using same
  | cons member rest ih =>
      obtain ⟨key, v⟩ := member
      rw [List.foldlM_cons, body_cons, Keyed.entries_cons]
      by_cases tag : key = Kind.tagKey
      · subst tag
        cases untagged : parts.kind with
        | some kind => simp [Parts.add, untagged]
        | none =>
            simp only [Option.bind_eq_bind, Option.bind_eq_some_iff,
              Parts.add_tag_eq_some_iff untagged, ih, ↓reduceIte]
            constructor
            · rintro ⟨_, ⟨kind, rfl, rfl⟩, kept, ⟨single, named⟩ | ⟨absent, _⟩⟩
              · exact ⟨kept, Or.inr ⟨trivial, kind, by rw [single], named⟩⟩
              · cases absent
            · rintro ⟨kept, ⟨empty, _⟩ | ⟨_, kind, single, named⟩⟩
              · cases empty
              · obtain ⟨rfl, none⟩ := List.cons.inj single
                exact ⟨_, ⟨kind, rfl, rfl⟩, kept, Or.inl ⟨none, named⟩⟩
      · simp [Parts.add, tag, ih]

/-- An object is a message if its only tag names a kind and its other members make a message of
that kind. -/
theorem readObject_eq_ok_iff {cs rest : List Char} {m : Message} :
    readObject cs = .ok (m, rest) ↔
      ∃ members, Json.spelledMembers (Json.maxDepth - 1) cs = .ok (members, rest) ∧
        Keyed.entries Kind.tagKey members = [.string m.kind.tag] ∧
        ofMembers m.kind (body members) = .ok m := by
  unfold readObject Json.spelledMembers
  simp only [Json.bind_eq_ok_iff]
  constructor
  · rintro ⟨⟨parts, left⟩, folded, read⟩
    obtain ⟨members, listed, taken⟩ := (gathers_readMember.foldMembers_eq_ok_iff _ _).mp folded
    obtain ⟨kept, ⟨_, untagged⟩ | ⟨_, kind, tagged, named⟩⟩ := foldlM_add_eq_some_iff.mp taken
    · -- That there is no tag is found before the closing brace is looked for.
      simp only [untagged] at read
      cases read
    · simp only [named, Json.bind_eq_ok_iff, Json.mapError_eq_ok_iff] at read
      obtain ⟨_, closed, _, made, same⟩ := read
      cases same
      obtain ⟨rfl, _⟩ := ofMembers_eq_ok_iff.mp made
      refine ⟨members, ⟨_, listed, _, closed, rfl⟩, tagged, ?_⟩
      rw [← made, kept]
      rfl
  · rintro ⟨_, ⟨⟨members, left⟩, listed, _, closed, same⟩, tagged, made⟩
    cases same
    let parts : Parts := ⟨some m.kind, body members⟩
    have taken : members.foldlM Parts.add {} = some parts :=
      foldlM_add_eq_some_iff.mpr ⟨rfl, Or.inr ⟨rfl, m.kind, tagged, rfl⟩⟩
    refine ⟨(parts, left), (gathers_readMember.foldMembers_eq_ok_iff _ _).mpr
      ⟨members, listed, taken⟩, ?_⟩
    simp only [parts, Json.bind_eq_ok_iff, Json.mapError_eq_ok_iff]
    exact ⟨rest, closed, m, made, rfl⟩

/-! The same object as a frame. -/

section Frames

variable {members : List (String × Json)} {m : Message}

/-- Each field of the message comes once among the members, with the value that it has there. -/
def Carries (members : List (String × Json)) (m : Message) : Prop :=
  ∀ field ∈ m.kind.fields, ∃ v, Keyed.entries field.key members = [v] ∧ field.admits v = true ∧
    m.value? field = some (field.asRead v)

theorem carries_iff :
    Carries members m ↔ Complete m.kind members ∧ ∀ field ∈ m.kind.fields,
      m.value? field = (Keyed.get? field.key members).map field.asRead := by
  have first {field : Field} {v : Json} (single : Keyed.entries field.key members = [v]) :
      (Keyed.get? field.key members).map field.asRead = some (field.asRead v) := by
    rw [Keyed.get?_eq_head?_entries, single]
    rfl
  constructor
  · intro carries
    constructor
    · intro field member
      obtain ⟨v, single, admitted, _⟩ := carries field member
      exact ⟨v, single, admitted⟩
    · intro field member
      obtain ⟨v, single, _, value⟩ := carries field member
      rw [value, first single]
  · rintro ⟨complete, values⟩ field member
    obtain ⟨v, single, admitted⟩ := complete field member
    refine ⟨v, single, admitted, ?_⟩
    rw [values field member, first single]

theorem ofMembers_eq_ok_iff_carries : ofMembers m.kind members = .ok m ↔ Carries members m := by
  rw [ofMembers_eq_ok_iff, carries_iff]
  exact and_iff_right rfl

theorem entries_body {key : String} (apart : key ≠ Kind.tagKey) :
    Keyed.entries key (body members) = Keyed.entries key members := by
  induction members with
  | nil => rfl
  | cons member rest ih =>
      rw [body_cons, Keyed.entries_cons, ← ih]
      by_cases tag : member.1 = Kind.tagKey
      · have other : member.1 ≠ key := fun same => apart (same.symm.trans tag)
        rw [if_pos tag, if_neg other]
      · rw [if_neg tag, Keyed.entries_cons]

/-- The tag does not matter for the fields. -/
theorem carries_body : Carries (body members) m ↔ Carries members m := by
  simp only [Carries, entries_body (Field.key_ne_tagKey _)]

/-- Members carry a message if the map of them does and none of its keys is repeated. -/
theorem carries_iff_ofPairs :
    Carries members m ↔ Carries (Keyed.ofPairs members) m ∧
      ∀ field ∈ m.kind.fields, (members.map Prod.fst).count field.key ≤ 1 := by
  constructor
  · intro carries
    constructor
    · intro field member
      obtain ⟨v, single, fits⟩ := carries field member
      exact ⟨v, (Keyed.entries_eq_singleton_iff.mp single).1, fits⟩
    · intro field member
      obtain ⟨v, single, _⟩ := carries field member
      exact (Keyed.entries_eq_singleton_iff.mp single).2
  · rintro ⟨carries, once⟩ field member
    obtain ⟨v, single, fits⟩ := carries field member
    exact ⟨v, Keyed.entries_eq_singleton_iff.mpr ⟨single, once field member⟩, fits⟩

theorem ofFrame_ofPairs_eq_ok_iff :
    ofFrame (.object (Keyed.ofPairs members)) = .ok m ↔
      Keyed.entries Kind.tagKey (Keyed.ofPairs members) = [.string m.kind.tag] ∧
        Carries (Keyed.ofPairs members) m := by
  rw [(Keyed.sorted_ofPairs members).entries_eq, Option.toList_eq_singleton_iff, carries_iff]
  constructor
  · intro decoded
    obtain ⟨tagged, complete, values⟩ := ofFrame_object_eq_ok_iff.mp decoded
    rw [label, Kind.label_eq_tag] at tagged
    exact ⟨tagged, complete, values⟩
  · rintro ⟨tagged, complete, values⟩
    rw [← Kind.label_eq_tag] at tagged
    exact ofFrame_object_eq_ok_iff.mpr ⟨tagged, complete, values⟩

theorem tagged_and_carries_iff :
    Keyed.entries Kind.tagKey members = [.string m.kind.tag] ∧ Carries members m ↔
      ofFrame (.object (Keyed.ofPairs members)) = .ok m ∧
        ∀ key ∈ Kind.tagKey :: m.kind.fields.map Field.key,
          (members.map Prod.fst).count key ≤ 1 := by
  rw [Keyed.entries_eq_singleton_iff, carries_iff_ofPairs, ofFrame_ofPairs_eq_ok_iff,
    List.forall_mem_cons, List.forall_mem_map]
  exact and_and_and_comm

end Frames

/-- The message of a text that is read as a frame first. -/
def viaFrame? (text : String) : Option Message :=
  (Json.parse text).toOption.bind fun f => (ofFrame f).toOption

theorem toOption_eq_some_iff {ε α : Type} {outcome : Except ε α} {a : α} :
    outcome.toOption = some a ↔ outcome = .ok a := by
  cases outcome <;> simp [Except.toOption]

theorem viaFrame?_eq_some_iff {text : String} {m : Message} :
    viaFrame? text = some m ↔ ∃ f, Json.parse text = .ok f ∧ ofFrame f = .ok m := by
  simp only [viaFrame?, Option.bind_eq_some_iff, toOption_eq_some_iff]

section Objects

variable {text : String} {rest : List Char} (opens : Json.skipSpaces text.toList = '\x7b' :: rest)

include opens

theorem ofText_eq_ok_iff {m : Message} :
    ofText text = .ok m ↔ ∃ f, Json.parse text = .ok f ∧ ofFrame f = .ok m ∧
      ∀ key ∈ Kind.tagKey :: m.kind.fields.map Field.key, (Json.topKeys text).count key ≤ 1 := by
  have direct : read text.toList = readObject rest := by simp only [read, opens]
  rw [ofText, Json.readAll_eq_ok_iff, direct]
  simp only [readObject_eq_ok_iff, ofMembers_eq_ok_iff_carries, carries_body,
    tagged_and_carries_iff, Json.parse_eq_ok_iff opens]
  constructor
  · rintro ⟨last, ⟨members, spelled, decoded, once⟩, ends⟩
    refine ⟨_, ⟨members, last, spelled, ends, rfl⟩, decoded, ?_⟩
    rw [Json.topKeys_eq opens spelled]
    exact once
  · rintro ⟨_, ⟨members, last, spelled, ends, rfl⟩, decoded, once⟩
    rw [Json.topKeys_eq opens spelled] at once
    exact ⟨last, ⟨members, spelled, decoded, once⟩, ends⟩

/-- A text that starts like an object is read as a message in one go exactly if it can be read as a
JSON value first, this value is a frame of the message, and neither the tag nor a field of the
message comes twice in the text. Unless a key that messages have is repeated, the two ways thus
agree: it does not matter where the tag stands, what other members there are, how often these come
and how the text is laid out. -/
theorem ofText_agrees_with_frame :
    (∀ m, ofText text = .ok m ↔ ∃ f, Json.parse text = .ok f ∧ ofFrame f = .ok m ∧
      ∀ key ∈ Kind.tagKey :: m.kind.fields.map Field.key, (Json.topKeys text).count key ≤ 1) ∧
    ((∀ kind : Kind, ∀ key ∈ Kind.tagKey :: kind.fields.map Field.key,
      (Json.topKeys text).count key ≤ 1) → (ofText text).toOption = viaFrame? text) := by
  refine ⟨fun m => ofText_eq_ok_iff opens, ?_⟩
  intro once
  apply Option.ext
  intro m
  rw [toOption_eq_some_iff, viaFrame?_eq_some_iff, ofText_eq_ok_iff opens]
  constructor
  · rintro ⟨f, parsed, decoded, _⟩
    exact ⟨f, parsed, decoded⟩
  · rintro ⟨f, parsed, decoded⟩
    exact ⟨f, parsed, decoded, once m.kind⟩

end Objects

/-- A tag behind its field, an escaped key and a repeated foreign one do no harm; a field that
comes twice, once escaped, does. -/
theorem ofText_agrees_with_frame_escaped :
    let tolerated := " \x7b\"x\":[\x7b\x7d], \"na\\u006de\":\"a\", \"x\":1, " ++
      "\"message_type\":\"progress-bar-add\"\x7d"
    let repeated := "\x7b\"message_type\":\"progress-bar-add\", \"name\":\"a\", " ++
      "\"na\\u006de\":\"a\"\x7d"
    ofText tolerated = .ok (.add "a") ∧ viaFrame? repeated = some (.add "a") ∧
      ∀ m, ofText repeated ≠ .ok m := by
  intro tolerated repeated
  have toleratedFacts : Json.skipSpaces tolerated.toList =
        '\x7b' :: (Json.skipSpaces tolerated.toList).tail ∧
      viaFrame? tolerated = some (.add "a") ∧
      Json.topKeys tolerated = ["x", "name", "x", "message_type"] := by decide +kernel
  have repeatedFacts : Json.skipSpaces repeated.toList =
        '\x7b' :: (Json.skipSpaces repeated.toList).tail ∧
      viaFrame? repeated = some (.add "a") ∧
      Json.topKeys repeated = ["message_type", "name", "name"] := by decide +kernel
  obtain ⟨opens, decoded, keys⟩ := toleratedFacts
  obtain ⟨opensAgain, decodedAgain, keysAgain⟩ := repeatedFacts
  refine ⟨?_, decodedAgain, ?_⟩
  · have once : ∀ kind : Kind, ∀ key ∈ Kind.tagKey :: kind.fields.map Field.key,
        (Json.topKeys tolerated).count key ≤ 1 := by
      rw [keys]
      intro kind
      cases kind <;> decide
    rw [← toOption_eq_some_iff, (ofText_agrees_with_frame opens).2 once, decoded]
  · intro m read
    obtain ⟨f, parsed, framed, once⟩ := ((ofText_agrees_with_frame opensAgain).1 m).mp read
    have same : viaFrame? repeated = some m := viaFrame?_eq_some_iff.mpr ⟨f, parsed, framed⟩
    rw [decodedAgain] at same
    cases same
    rw [keysAgain] at once
    exact absurd (once "name" (by decide)) (by decide)

end Message

end Runboard
