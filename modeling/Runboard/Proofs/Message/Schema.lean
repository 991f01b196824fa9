import Runboard.Proofs.Message.Fields
import Runboard.Proofs.Number.Shortest

set_option autoImplicit false

namespace Runboard

open Number (Binary WritesPlainly)

/-! Tags. -/

namespace Kind

theorem mem_all (kind : Kind) : kind ∈ all := by
  cases kind <;> decide

/-- The list of known tags, the labels and the tags that are written say the same. -/
theorem label_eq_tag (kind : Kind) : kind.label = kind.tag := by
  cases kind <;> rfl

theorem known_eq : known = all.map label := rfl

theorem label_injective {kind other : Kind} (same : kind.label = other.label) : kind = other := by
  cases kind <;> cases other <;> simp_all [label, known]

theorem mem_known_iff {s : String} : s ∈ known ↔ ∃ kind : Kind, s = kind.label := by
  rw [known_eq, List.mem_map]
  constructor
  · rintro ⟨kind, _, rfl⟩
    exact ⟨kind, rfl⟩
  · rintro ⟨kind, rfl⟩
    exact ⟨kind, kind.mem_all, rfl⟩

theorem ofTag?_eq_some_iff {tag : String} {kind : Kind} :
    ofTag? tag = some kind ↔ tag = kind.tag := by
  have injective {kind other : Kind} (same : kind.tag = other.tag) : kind = other := by
    rw [← label_eq_tag, ← label_eq_tag] at same
    exact label_injective same
  rw [ofTag?, find?_beq_eq_some_iff injective, and_iff_right kind.mem_all, eq_comm]

theorem find?_known_eq_some_iff {s label : String} :
    known.find? (· == s) = some label ↔ label ∈ known ∧ label = s :=
  @find?_beq_eq_some_iff String id (fun same => same) _ _ _

end Kind

theorem Json.string?_eq_some_iff {v : Json} {s : String} :
    v.string? = some s ↔ v = .string s := by
  cases v <;> simp [Json.string?]

/-! Values. -/

/-- How a number is shown: an integer in full, and a float of full precision by a plain text for a
decimal that is no further away than half the distance to the next float. Whole floats, and no
others, are shown without a fraction. -/
def Json.Numeral.ShownBy : Json.Numeral → String → Prop
  | .integer n, text => text = toString n
  | .float x, text => x.mantissa < 2 ^ Binary.precision →
      ∃ q : ℚ, WritesPlainly text x.negative q ∧ (q.den = 1 ↔ x.value.den = 1) ∧
        |q - x.value| ≤ x.spacing / 2

theorem Counter.shownBy_numberText (n : Json.Numeral) : n.ShownBy (numberText n) := by
  cases n with
  | integer n => exact Number.integerText_eq_toString n
  | float x =>
      intro double
      have plain := (Number.normal_shortest double .up).writesPlainly
      rw [Number.negative_shortest] at plain
      exact ⟨_, plain, Number.den_value_shortest double .up,
        Number.abs_value_shortest_sub_le double .up⟩

/-- What a message has for a value: the value itself, or a text that shows it if it is a number. -/
def Field.Keeps : Field → Json → Json → Prop
  | .counter, .number n, kept => ∃ text, kept = .string text ∧ n.ShownBy text
  | _, v, kept => kept = v

theorem Field.keeps_asRead (field : Field) (v : Json) : field.Keeps v (field.asRead v) := by
  cases field with
  | counter =>
      cases v with
      | number n => exact ⟨_, rfl, Counter.shownBy_numberText n⟩
      | _ => rfl
  | _ => rfl

namespace Message

variable {members : Keyed Json} {m : Message}

/-- The members of an object that is a message: the label of its kind, and each field of the kind
with a value of its type, which the message has as well. -/
structure Conforms (members : Keyed Json) (m : Message) : Prop where
  tagged : Keyed.get? Kind.tagKey members = some (.string m.label)
  complete : Complete m.kind members
  values : ∀ field ∈ m.kind.fields, ∃ v kept,
    Keyed.get? field.key members = some v ∧ m.value? field = some kept ∧ field.Keeps v kept

/-- The text under the tag of an object. -/
theorem bind_string?_eq_some_iff {s : String} :
    (Keyed.get? Kind.tagKey members).bind Json.string? = some s ↔
      Keyed.get? Kind.tagKey members = some (.string s) := by
  simp [Option.bind_eq_some_iff, Json.string?_eq_some_iff]

theorem ofFrame_of_tagged {kind : Kind}
    (tagged : Keyed.get? Kind.tagKey members = some (.string kind.label)) :
    ofFrame (.object members) = (ofMembers kind members).mapError (.malformed kind.label) := by
  have listed : Kind.known.find? (· == kind.label) = some kind.label :=
    Kind.find?_known_eq_some_iff.mpr ⟨Kind.mem_known_iff.mpr ⟨kind, rfl⟩, rfl⟩
  have known : Kind.ofTag? kind.label = some kind :=
    Kind.ofTag?_eq_some_iff.mpr kind.label_eq_tag
  simp only [ofFrame, tagged, Option.bind_some, Json.string?, listed, ofTagged, known]

theorem ofFrame_of_untagged (untagged : ∀ s ∈ Kind.known,
      (Keyed.get? Kind.tagKey members).bind Json.string? ≠ some s) :
    ofFrame (.object members) =
      .error (.unknownKind ((Keyed.get? Kind.tagKey members).bind Json.string?)
        (.object members)) := by
  simp only [ofFrame]
  generalize (Keyed.get? Kind.tagKey members).bind Json.string? = tag at untagged ⊢
  have unlisted : (tag.bind fun s => Kind.known.find? (· == s)) = none := by
    rw [Option.bind_eq_none_iff]
    intro s found
    rw [Option.eq_none_iff_forall_ne_some]
    intro label listed
    obtain ⟨member, rfl⟩ := Kind.find?_known_eq_some_iff.mp listed
    exact untagged label member found
  rw [unlisted]

/-- An object has the tag of a kind or none of them. -/
theorem tagged_or_untagged (members : Keyed Json) :
    (∃ kind : Kind, Keyed.get? Kind.tagKey members = some (.string kind.label)) ∨
      ∀ s ∈ Kind.known, (Keyed.get? Kind.tagKey members).bind Json.string? ≠ some s := by
  by_cases tagged : ∃ kind : Kind, Keyed.get? Kind.tagKey members = some (.string kind.label)
  · exact Or.inl tagged
  · right
    intro s listed found
    obtain ⟨kind, rfl⟩ := Kind.mem_known_iff.mp listed
    exact tagged ⟨kind, bind_string?_eq_some_iff.mp found⟩

/-- The members of a message are those of its kind, with the values that were read. -/
theorem ofFrame_object_eq_ok_iff :
    ofFrame (.object members) = .ok m ↔
      Keyed.get? Kind.tagKey members = some (.string m.label) ∧ Complete m.kind members ∧
        ∀ field ∈ m.kind.fields,
          m.value? field = (Keyed.get? field.key members).map field.asRead := by
  rcases tagged_or_untagged members with ⟨kind, tagged⟩ | untagged
  · have same : Keyed.get? Kind.tagKey members = some (.string m.label) ↔ m.kind = kind := by
      rw [tagged, Option.some.injEq, Json.string.injEq, eq_comm]
      exact ⟨Kind.label_injective, congrArg Kind.label⟩
    rw [ofFrame_of_tagged tagged, same, Json.mapError_eq_ok_iff, ofMembers_eq_ok_iff]
    constructor
    · rintro ⟨rfl, complete, values⟩
      exact ⟨rfl, complete, values⟩
    · rintro ⟨rfl, complete, values⟩
      exact ⟨rfl, complete, values⟩
  · rw [ofFrame_of_untagged untagged]
    constructor
    · intro success
      cases success
    · rintro ⟨tagged, _⟩
      have known : m.label ∈ Kind.known := Kind.mem_known_iff.mpr ⟨m.kind, rfl⟩
      exact absurd (bind_string?_eq_some_iff.mpr tagged) (untagged m.label known)

theorem conforms_of_ofFrame (success : ofFrame (.object members) = .ok m) :
    Conforms members m := by
  obtain ⟨tagged, complete, values⟩ := ofFrame_object_eq_ok_iff.mp success
  refine ⟨tagged, complete, ?_⟩
  intro field member
  obtain ⟨v, present⟩ := Option.isSome_iff_exists.mp (complete.isSome_get? member)
  refine ⟨v, field.asRead v, present, ?_, field.keeps_asRead v⟩
  rw [values field member, present, Option.map_some]

inductive Decoding : Json → Except DecodeError Message → Prop
  | notAnObject {f : Json} (other : ∀ members, f ≠ .object members) :
      Decoding f (.error (.notAnObject f))
  | unknownKind {members : Keyed Json} {tag : Option String}
      (found : ∀ s, tag = some s ↔ Keyed.get? Kind.tagKey members = some (.string s))
      (unknown : ∀ s, tag = some s → s ∉ Kind.known) :
      Decoding (.object members) (.error (.unknownKind tag (.object members)))
  | malformed {members : Keyed Json} {kind : Kind}
      (tagged : Keyed.get? Kind.tagKey members = some (.string kind.label))
      (incomplete : ¬ Complete kind members) (reason : Json.Mismatch) :
      Decoding (.object members) (.error (.malformed kind.label reason))
  | message {members : Keyed Json} {m : Message} (conforms : Conforms members m) :
      Decoding (.object members) (.ok m)

theorem decoding_object (members : Keyed Json) :
    Decoding (.object members) (ofFrame (.object members)) := by
  rcases tagged_or_untagged members with ⟨kind, tagged⟩ | untagged
  · cases read : ofMembers kind members with
    | ok m =>
        have success : ofFrame (.object members) = .ok m := by
          rw [ofFrame_of_tagged tagged, read]
          rfl
        rw [success]
        exact .message (conforms_of_ofFrame success)
    | error reason =>
        rw [ofFrame_of_tagged tagged, read]
        refine .malformed tagged ?_ reason
        intro complete
        obtain ⟨m, success⟩ := exists_ofMembers_iff.mpr complete
        rw [read] at success
        cases success
  · rw [ofFrame_of_untagged untagged]
    exact .unknownKind (fun s => bind_string?_eq_some_iff) fun s found listed =>
      untagged s listed found

theorem decoding_ofFrame (f : Json) : Decoding f (ofFrame f) := by
  cases f with
  | object members => exact decoding_object members
  | _ => exact .notAnObject (by intro members same; cases same)

theorem exists_ofFrame_iff {f : Json} :
    (∃ m, ofFrame f = .ok m) ↔
      ∃ members, ∃ kind : Kind, f = .object members ∧
        Keyed.get? Kind.tagKey members = some (.string kind.label) ∧ Complete kind members := by
  constructor
  · rintro ⟨m, success⟩
    have decoding := decoding_ofFrame f
    rw [success] at decoding
    cases decoding with
    | message conforms => exact ⟨_, m.kind, rfl, conforms.tagged, conforms.complete⟩
  · rintro ⟨members, kind, rfl, tagged, complete⟩
    obtain ⟨m, read⟩ := exists_ofMembers_iff.mpr complete
    refine ⟨m, ?_⟩
    rw [ofFrame_of_tagged tagged, read]
    rfl

theorem ofFrame_eq_notAnObject_iff {f : Json} :
    (∃ g, ofFrame f = .error (.notAnObject g)) ↔ ∀ members, f ≠ .object members := by
  have decoding := decoding_ofFrame f
  generalize ofFrame f = outcome at decoding
  cases decoding with
  | notAnObject other => exact ⟨fun _ => other, fun _ => ⟨f, rfl⟩⟩
  | _ =>
      constructor
      · rintro ⟨_, failed⟩
        cases failed
      · intro other
        exact absurd rfl (other _)

theorem ofFrame_eq_unknownKind_iff {f : Json} {tag : Option String} :
    (∃ g, ofFrame f = .error (.unknownKind tag g)) ↔
      ∃ members, f = .object members ∧
        (∀ s, tag = some s ↔ Keyed.get? Kind.tagKey members = some (.string s)) ∧
        ∀ s, tag = some s → s ∉ Kind.known := by
  constructor
  · rintro ⟨g, failed⟩
    have decoding := decoding_ofFrame f
    rw [failed] at decoding
    cases decoding with
    | unknownKind found unknown => exact ⟨_, rfl, found, unknown⟩
  · rintro ⟨members, rfl, found, unknown⟩
    have same : (Keyed.get? Kind.tagKey members).bind Json.string? = tag :=
      Option.ext fun s => bind_string?_eq_some_iff.trans (found s).symm
    refine ⟨.object members, ?_⟩
    rw [ofFrame_of_untagged, same]
    intro s listed told
    exact unknown s (same.symm.trans told) listed

theorem ofFrame_eq_malformed_iff {f : Json} {label : String} :
    (∃ reason, ofFrame f = .error (.malformed label reason)) ↔
      ∃ members, ∃ kind : Kind, f = .object members ∧ label = kind.label ∧
        Keyed.get? Kind.tagKey members = some (.string label) ∧ ¬ Complete kind members := by
  constructor
  · rintro ⟨reason, failed⟩
    have decoding := decoding_ofFrame f
    rw [failed] at decoding
    cases decoding with
    | malformed tagged incomplete => exact ⟨_, _, rfl, rfl, tagged, incomplete⟩
  · rintro ⟨members, kind, rfl, rfl, tagged, incomplete⟩
    rw [ofFrame_of_tagged tagged]
    cases read : ofMembers kind members with
    | ok m => exact absurd (exists_ofMembers_iff.mp ⟨m, read⟩) incomplete
    | error reason => exact ⟨reason, rfl⟩

/-- An error that does not recognize the frame carries it whole. -/
theorem frame_of_error {f : Json} {e : DecodeError} (failed : ofFrame f = .error e) :
    (e.isUnrecognized = true ↔ e = .notAnObject f ∨ ∃ tag, e = .unknownKind tag f) ∧
      e.frameText? = if e.isUnrecognized then some f.text else none := by
  have decoding := decoding_ofFrame f
  rw [failed] at decoding
  cases decoding <;> simp [DecodeError.isUnrecognized, DecodeError.frameText?]

/-- Every frame has one of four outcomes, and its shape tells which: it is no object, it has no
known tag, it lacks a field of its kind or has one of the wrong type, or it is a message with the
values of these fields, where a number that counts is kept as a text that shows it. Members with
other keys make no difference. -/
theorem ofFrame_outcome (f : Json) :
    ((∃ g, ofFrame f = .error (.notAnObject g)) ↔ ∀ members, f ≠ .object members) ∧
      (∀ tag, (∃ g, ofFrame f = .error (.unknownKind tag g)) ↔
        ∃ members, f = .object members ∧
          (∀ s, tag = some s ↔ Keyed.get? Kind.tagKey members = some (.string s)) ∧
          ∀ s, tag = some s → s ∉ Kind.known) ∧
      ((∃ m, ofFrame f = .ok m) ↔ ∃ members, ∃ kind : Kind, f = .object members ∧
        Keyed.get? Kind.tagKey members = some (.string kind.label) ∧ Complete kind members) ∧
      (∀ m, ofFrame f = .ok m → ∃ members, f = .object members ∧ Conforms members m) ∧
      (∀ label, (∃ reason, ofFrame f = .error (.malformed label reason)) ↔
        ∃ members, ∃ kind : Kind, f = .object members ∧ label = kind.label ∧
          Keyed.get? Kind.tagKey members = some (.string label) ∧ ¬ Complete kind members) ∧
      ∀ e, ofFrame f = .error e →
        (e.isUnrecognized = true ↔ e = .notAnObject f ∨ ∃ tag, e = .unknownKind tag f) ∧
          e.frameText? = if e.isUnrecognized then some f.text else none := by
  refine ⟨ofFrame_eq_notAnObject_iff, ?_, exists_ofFrame_iff, ?_, ?_, ?_⟩
  · intro tag
    exact ofFrame_eq_unknownKind_iff
  · intro m success
    obtain ⟨members, _, rfl, _⟩ := exists_ofFrame_iff.mp ⟨m, success⟩
    exact ⟨members, rfl, conforms_of_ofFrame success⟩
  · intro label
    exact ofFrame_eq_malformed_iff
  · intro e failed
    exact frame_of_error failed

end Message

end Runboard
