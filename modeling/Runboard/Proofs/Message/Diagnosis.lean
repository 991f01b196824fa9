import Mathlib.Data.List.Find
import Runboard.Proofs.Message.Schema

set_option autoImplicit false

namespace Runboard

/-- What is wrong with a value of a field, if anything is. Of a list it is the first item that is
no text. -/
def Field.fault? : Field → Json → Option Json.Mismatch
  | .name, .string _ => none
  | .name, v => some (.invalidType v .string)
  | .counter, .string _ => none
  | .counter, .number _ => none
  | .counter, _ => some .noCounter
  | .message, .string _ => none
  | .message, v => some (.invalidType v .string)
  | .problems, .array items =>
    (items.find? fun item => item.string?.isNone).map fun item => .invalidType item .string
  | .problems, v => some (.invalidType v .sequence)
  | .isFinal, .bool _ => none
  | .isFinal, v => some (.invalidType v .boolean)

theorem Field.fault?_eq_none_iff {field : Field} {v : Json} :
    field.fault? v = none ↔ field.admits v = true := by
  cases field <;> cases v <;>
    simp [fault?, admits, List.find?_eq_none, Option.isSome_iff_ne_none]

namespace Kind

/-- The entry is a field of the kind and its value has not the type of the field. -/
def rejects (kind : Kind) (entry : String × Json) : Bool :=
  (kind.field? entry.1).any fun field => !field.admits entry.2

theorem rejects_of_mem (kind : Kind) {field : Field} (own : field ∈ kind.fields) (v : Json) :
    kind.rejects (field.key, v) = !field.admits v := by
  have found : kind.field? field.key = some field := field?_eq_some_iff.mpr ⟨own, rfl⟩
  simp only [rejects, found, Option.any_some]

theorem exists_of_rejects {kind : Kind} {key : String} {v : Json}
    (rejected : kind.rejects (key, v) = true) :
    ∃ field ∈ kind.fields, field.key = key ∧ field.admits v = false := by
  cases found : kind.field? key with
  | none => simp [rejects, found] at rejected
  | some field =>
      obtain ⟨own, rfl⟩ := field?_eq_some_iff.mp found
      refine ⟨field, own, rfl, ?_⟩
      simpa [kind.rejects_of_mem own] using rejected

end Kind

namespace Slots

/-- Of several items that are no texts the first is complained about. -/
theorem mapM_readText_of_find? {items : List Json} {item : Json}
    (found : items.find? (fun item => item.string?.isNone) = some item) :
    items.mapM readText = .error (.invalidType item .string) := by
  induction items with
  | nil => cases found
  | cons first items ih =>
      rw [List.mapM_cons]
      cases first with
      | string s =>
          rw [ih found]
          rfl
      | _ =>
          cases found
          rfl

theorem read_of_fault {field : Field} {v : Json} {e : Json.Mismatch} (slots : Slots)
    (wrong : field.fault? v = some e) : slots.read field v = .error e := by
  cases field with
  | problems =>
      cases v with
      | array items =>
          obtain ⟨item, found, rfl⟩ := Option.map_eq_some_iff.mp wrong
          simp only [Slots.read, readTexts, mapM_readText_of_find? found]
          rfl
      | _ =>
          cases wrong
          rfl
  | _ => cases v <;> cases wrong <;> rfl

theorem readMember_of_fault {kind : Kind} {slots : Slots} {field : Field} {v : Json}
    {e : Json.Mismatch} (own : field ∈ kind.fields) (fresh : slots.value? field = none)
    (wrong : field.fault? v = some e) : readMember kind slots (field.key, v) = .error e := by
  have found : kind.field? field.key = some field := Kind.field?_eq_some_iff.mpr ⟨own, rfl⟩
  have unread : slots.has field = false := by rw [has_eq, fresh]; rfl
  simp only [readMember, found, unread, Bool.false_eq_true, ↓reduceIte]
  exact read_of_fault slots wrong

/-- Of several fields that have not been read the first is complained about. -/
theorem toMessage_of_missing {slots : Slots} {kind : Kind} {field : Field}
    (missing : kind.fields.find? (fun field => !slots.has field) = some field) :
    slots.toMessage kind = .error (.missingField field.key) := by
  cases kind with
  | add =>
      cases named : slots.name <;>
        simp_all [Kind.fields, has, toMessage, require, Functor.map, Except.map]
  | update =>
      cases named : slots.name <;> cases counted : slots.counter <;>
        simp_all [Kind.fields, has, toMessage, require, bind, Except.bind]
  | note | finish =>
      cases named : slots.name <;> cases noted : slots.message <;>
        simp_all [Kind.fields, has, toMessage, require, bind, Except.bind]
  | problems =>
      cases listed : slots.problems <;> cases marked : slots.isFinal <;>
        simp_all [Kind.fields, has, toMessage, require, bind, Except.bind]

end Slots

namespace Message

variable {kind : Kind} {members others : Keyed Json}

/-- Every field of the kind that is there has a value of its type. -/
def Typed (kind : Kind) (members : Keyed Json) : Prop :=
  ∀ field ∈ kind.fields, ∀ v, Keyed.get? field.key members = some v → field.admits v = true

/-- A field has a value that is not of its type, and no field with a smaller key has one. -/
structure FirstFault (kind : Kind) (members : Keyed Json) (field : Field) (e : Json.Mismatch) :
    Prop where
  own : field ∈ kind.fields
  wrong : ∃ v, Keyed.get? field.key members = some v ∧ field.fault? v = some e
  first : ∀ other ∈ kind.fields, other.key < field.key →
    ∀ v, Keyed.get? other.key members = some v → other.admits v = true

/-- The first field of the kind, as the kind lists them, that is not there. -/
def firstMissing? (kind : Kind) (members : Keyed Json) : Option Field :=
  kind.fields.find? fun field => (Keyed.get? field.key members).isNone

/-- Members of the right types, none of which comes twice, are all read. -/
theorem Typed.fits (typed : Typed kind members) (sorted : members.Sorted) {field : Field}
    (own : field ∈ kind.fields) : Slots.Fits {} members field := by
  rw [Slots.Fits, sorted.entries_eq]
  cases found : Keyed.get? field.key members with
  | none => exact Or.inl rfl
  | some v => exact Or.inr ⟨value?_empty field, v, rfl, typed field own v found⟩

theorem Typed.exists_read (typed : Typed kind members) (sorted : members.Sorted) :
    ∃ slots, members.foldlM (Slots.readMember kind) {} = .ok slots :=
  (Slots.foldlM_readMember_ok_iff kind members {}).mpr fun _ own => typed.fits sorted own

/-- Keys in front of an entry are smaller than its own. -/
theorem lt_of_mem_before {before after : Keyed Json} {entry other : String × Json}
    (sorted : Keyed.Sorted (before ++ entry :: after)) (member : other ∈ before) :
    other.1 < entry.1 :=
  (List.pairwise_append.mp sorted).2.2 other member entry List.mem_cons_self

/-- What stands in front of the first fault is read, and then the fault is found. -/
theorem FirstFault.ofMembers_eq {field : Field} {e : Json.Mismatch} (sorted : members.Sorted)
    (fault : FirstFault kind members field e) : ofMembers kind members = .error e := by
  obtain ⟨v, found, wrong⟩ := fault.wrong
  obtain ⟨before, after, rfl⟩ := List.append_of_mem (Keyed.mem_of_get? found)
  have sortedBefore : Keyed.Sorted before := (List.pairwise_append.mp sorted).1
  have typed : Typed kind before := by
    intro other own w here
    have member := Keyed.mem_of_get? here
    have smaller := lt_of_mem_before sorted member
    refine fault.first other own smaller w ?_
    exact (sorted.mem_iff _ _).mp (List.mem_append_left _ member)
  obtain ⟨slots, read⟩ := typed.exists_read sortedBefore
  have fresh : slots.value? field = none := by
    rw [value?_of_read read fault.own]
    cases again : Keyed.get? field.key before with
    | none => rfl
    | some w =>
        have before := lt_of_mem_before sorted (Keyed.mem_of_get? again)
        exact absurd before (String.lt_irrefl _)
  have refused := Slots.readMember_of_fault fault.own fresh wrong
  have failed : (before ++ (field.key, v) :: after).foldlM (Slots.readMember kind) {} =
      .error e := by
    rw [List.foldlM_append, read]
    exact Slots.foldlM_cons_of_error after refused
  rw [ofMembers, failed]
  rfl

/-- If some value has not the type of its field, then there is a first one. -/
theorem exists_firstFault (sorted : members.Sorted) (untyped : ¬ Typed kind members) :
    ∃ field e, FirstFault kind members field e := by
  cases found : members.find? kind.rejects with
  | none =>
      refine absurd ?_ untyped
      intro field own v here
      have fine := List.find?_eq_none.mp found _ (Keyed.mem_of_get? here)
      simpa [kind.rejects_of_mem own] using fine
  | some entry =>
      obtain ⟨key, v⟩ := entry
      obtain ⟨rejected, before, after, split, fine⟩ := List.find?_eq_some_iff_append.mp found
      obtain ⟨field, own, rfl, mistyped⟩ := Kind.exists_of_rejects rejected
      obtain ⟨e, wrong⟩ := Option.ne_none_iff_exists'.mp
        (mt Field.fault?_eq_none_iff.mp (Bool.not_eq_true _ ▸ mistyped))
      have here : Keyed.get? field.key members = some v :=
        (sorted.mem_iff _ _).mp (List.mem_of_find?_eq_some found)
      refine ⟨field, e, own, ⟨v, here, wrong⟩, ?_⟩
      -- A smaller key stands in front of this one, where nothing is rejected.
      intro other ownOther smaller w there
      have member := Keyed.mem_of_get? there
      rw [split] at sorted member
      rcases List.mem_append.mp member with early | late
      · simpa [kind.rejects_of_mem ownOther] using fine _ early
      · have sortedLate := (List.pairwise_append.mp sorted).2.1
        rcases List.mem_cons.mp late with same | later
        · exact absurd (congrArg Prod.fst same) (String.ne_of_lt smaller)
        · have greater := Keyed.Sorted.head_lt sortedLate later
          exact absurd smaller (String.lt_asymm greater)

/-- Values of the right types leave only fields to complain about that are not there. -/
theorem Typed.ofMembers_of_missing (typed : Typed kind members) (sorted : members.Sorted)
    {field : Field} (missing : firstMissing? kind members = some field) :
    ofMembers kind members = .error (.missingField field.key) := by
  obtain ⟨slots, read⟩ := typed.exists_read sorted
  rw [ofMembers_of_read read]
  apply Slots.toMessage_of_missing
  rw [← missing, firstMissing?]
  refine List.find?_congr fun other own => ?_
  rw [Slots.has_eq, value?_of_read read own, Option.isSome_map, Option.not_isSome]

/-- If nothing is wrong and nothing missing, then there is a message. -/
theorem Typed.complete (typed : Typed kind members) (sorted : members.Sorted)
    (whole : firstMissing? kind members = none) : Complete kind members := by
  intro field own
  have present := List.find?_eq_none.mp whole field own
  obtain ⟨v, found⟩ := Option.ne_none_iff_exists'.mp (mt Option.isNone_iff_eq_none.mpr present)
  refine ⟨v, ?_, typed field own v found⟩
  rw [sorted.entries_eq, found]
  rfl

section TwoFrames

variable (same : ∀ field ∈ kind.fields,
  Keyed.get? field.key others = Keyed.get? field.key members)

include same

theorem Typed.congr (typed : Typed kind members) : Typed kind others := by
  intro field own v found
  rw [same field own] at found
  exact typed field own v found

theorem FirstFault.congr {field : Field} {e : Json.Mismatch}
    (fault : FirstFault kind members field e) : FirstFault kind others field e := by
  refine ⟨fault.own, ?_, ?_⟩
  · rw [same field fault.own]
    exact fault.wrong
  · intro other own smaller
    rw [same other own]
    exact fault.first other own smaller

theorem firstMissing?_congr : firstMissing? kind others = firstMissing? kind members :=
  List.find?_congr fun field own => by rw [same field own]

/-- Only the values of the fields of a kind count. -/
theorem ofMembers_congr (sorted : members.Sorted) (sortedOthers : others.Sorted) :
    ofMembers kind others = ofMembers kind members := by
  by_cases typed : Typed kind members
  · have typedOthers := typed.congr same
    cases missing : firstMissing? kind members with
    | some field =>
        rw [typed.ofMembers_of_missing sorted missing,
          typedOthers.ofMembers_of_missing sortedOthers ((firstMissing?_congr same).trans missing)]
    | none =>
        obtain ⟨m, success⟩ := exists_ofMembers_iff.mpr (typed.complete sorted missing)
        obtain ⟨sameKind, _, values⟩ := ofMembers_eq_ok_iff.mp success
        rw [success, ofMembers_eq_ok_iff]
        refine ⟨sameKind, ?_, ?_⟩
        · exact typedOthers.complete sortedOthers ((firstMissing?_congr same).trans missing)
        · intro field own
          rw [same field own]
          exact values field own
  · obtain ⟨field, e, fault⟩ := exists_firstFault sorted typed
    rw [fault.ofMembers_eq sorted, (fault.congr same).ofMembers_eq sortedOthers]

end TwoFrames

/-- The diagnosis of a malformed frame. If a field of its kind has a value of another type, then
the frame is refused for the field with the smallest key of which this is true, whatever is missing.
Otherwise, if fields are missing, it is refused for the first of them in the order of the kind. Two
frames that have the tag and the fields of the kind in common have everything in common that
is said about them. -/
theorem ofFrame_diagnosis (sorted : members.Sorted)
    (tagged : Keyed.get? Kind.tagKey members = some (.string kind.label)) :
    ((∃ field ∈ kind.fields, ∃ v,
        Keyed.get? field.key members = some v ∧ field.admits v = false) →
      ∃ field e, FirstFault kind members field e ∧
        ofFrame (.object members) = .error (.malformed kind.label e)) ∧
    ((∀ field ∈ kind.fields, ∀ v,
        Keyed.get? field.key members = some v → field.admits v = true) →
      ∀ field, firstMissing? kind members = some field →
        ofFrame (.object members) = .error (.malformed kind.label (.missingField field.key))) ∧
    ∀ others : Keyed Json, others.Sorted →
      Keyed.get? Kind.tagKey others = Keyed.get? Kind.tagKey members →
      (∀ field ∈ kind.fields, Keyed.get? field.key others = Keyed.get? field.key members) →
      ofFrame (.object others) = ofFrame (.object members) := by
  refine ⟨?_, ?_, ?_⟩
  · rintro ⟨field, own, v, found, mistyped⟩
    have untyped : ¬ Typed kind members := by
      intro typed
      rw [typed field own v found] at mistyped
      cases mistyped
    obtain ⟨first, e, fault⟩ := exists_firstFault sorted untyped
    refine ⟨first, e, fault, ?_⟩
    rw [ofFrame_of_tagged tagged, fault.ofMembers_eq sorted]
    rfl
  · intro typed field missing
    rw [ofFrame_of_tagged tagged, Typed.ofMembers_of_missing typed sorted missing]
    rfl
  · intro others sortedOthers sameTag same
    rw [ofFrame_of_tagged tagged, ofFrame_of_tagged (sameTag.trans tagged),
      ofMembers_congr same sorted sortedOthers]

/-- Two values are wrong, and the smaller key is named although the kind lists it last. A frame with
foreign members around them is refused in the same words. -/
theorem ofFrame_diagnosis_two_faults :
    let plain : Keyed Json := [("counter", .null),
      ("message_type", .string "progress-bar-update"), ("name", .bool true)]
    let noisy : Keyed Json := [("a", .array [.null]), ("counter", .null), ("is_final", .null),
      ("message_type", .string "progress-bar-update"), ("name", .bool true), ("z", .object [])]
    let bare : Keyed Json := [("message", .string "hi"),
      ("message_type", .string "progress-bar-finish")]
    FirstFault .update plain .counter .noCounter ∧
      ofFrame (.object plain) = .error (.malformed "progress-bar-update" .noCounter) ∧
      ofFrame (.object noisy) = ofFrame (.object plain) ∧
      ofFrame (.object bare) =
        .error (.malformed "progress-bar-finish" (.missingField "name")) := by
  intro plain noisy bare
  have sortedPlain : plain.Sorted := by unfold Keyed.Sorted; decide
  have sortedNoisy : noisy.Sorted := by unfold Keyed.Sorted; decide
  have sortedBare : bare.Sorted := by unfold Keyed.Sorted; decide
  have update : Keyed.get? Kind.tagKey plain = some (.string Kind.update.label) := rfl
  have finish : Keyed.get? Kind.tagKey bare = some (.string Kind.finish.label) := rfl
  have faults := ofFrame_diagnosis sortedPlain update
  have missing := ofFrame_diagnosis sortedBare finish
  have own {field : Field} (member : field ∈ Kind.update.fields) :
      field = .name ∨ field = .counter := by simpa [Kind.fields] using member
  obtain ⟨field, e, fault, refused⟩ := faults.1 ⟨.name, by decide, .bool true, rfl, rfl⟩
  have counter : field = .counter := by
    rcases own fault.own with rfl | rfl
    · exact absurd (fault.first .counter (by decide) (by decide) .null rfl) (by decide)
    · rfl
  subst counter
  obtain ⟨v, found, wrong⟩ := fault.wrong
  cases found
  cases wrong
  have unnamed : firstMissing? .finish bare = some .name := by decide
  refine ⟨fault, refused, faults.2.2 noisy sortedNoisy rfl ?_, missing.2.1 ?_ .name unnamed⟩
  · intro field member
    rcases own member with rfl | rfl <;> rfl
  · intro field own v found
    cases field <;> cases found
    rfl

end Message

end Runboard
