import Runboard.Message.Frame
import Runboard.Proofs.Keyed

set_option autoImplicit false

namespace Runboard

namespace Field

def admits : Field → Json → Bool
  | .name, .string _ => true
  | .counter, .string _ => true
  | .counter, .number _ => true
  | .message, .string _ => true
  | .problems, .array items => items.all fun item => item.string?.isSome
  | .isFinal, .bool _ => true
  | _, _ => false

/-- The value that a message has once a value has been read. -/
def asRead : Field → Json → Json
  | .counter, .number n => .string (Counter.numberText n)
  | _, v => v

theorem key_injective {field other : Field} (same : field.key = other.key) : field = other := by
  cases field <;> cases other <;> simp_all [key]

end Field

/-- Looking for a key that tells the members of a list apart. -/
theorem find?_beq_eq_some_iff {α : Type} {key : α → String}
    (injective : ∀ {a b : α}, key a = key b → a = b) {items : List α} {wanted : String} {a : α} :
    items.find? (fun item => key item == wanted) = some a ↔ a ∈ items ∧ key a = wanted := by
  constructor
  · intro found
    exact ⟨List.mem_of_find?_eq_some found, by simpa using List.find?_some found⟩
  · rintro ⟨member, rfl⟩
    cases found : items.find? (fun item => key item == key a) with
    | none => simpa using List.find?_eq_none.mp found a member
    | some other =>
        have same : key other = key a := by simpa using List.find?_some found
        rw [injective same]

theorem Kind.field?_eq_some_iff {kind : Kind} {key : String} {field : Field} :
    kind.field? key = some field ↔ field ∈ kind.fields ∧ field.key = key :=
  find?_beq_eq_some_iff Field.key_injective

theorem Counter.text_inj {counter other : Counter} :
    counter.text = other.text ↔ counter = other := by
  cases counter
  cases other
  simp

theorem Json.map_string_inj {texts others : List String} :
    texts.map Json.string = others.map Json.string ↔ texts = others :=
  List.map_inj_right fun _ _ same => Json.string.inj same

def Message.value? : Message → Field → Option Json
  | .add name, .name => some (.string name)
  | .update name _, .name => some (.string name)
  | .update _ counter, .counter => some (.string counter.text)
  | .note name _, .name => some (.string name)
  | .note _ text, .message => some (.string text)
  | .finish name _, .name => some (.string name)
  | .finish _ text, .message => some (.string text)
  | .problems items _, .problems => some (.array (items.map .string))
  | .problems _ isFinal, .isFinal => some (.bool isFinal)
  | _, _ => none

namespace Slots

def value? (slots : Slots) : Field → Option Json
  | .name => slots.name.map .string
  | .counter => slots.counter.map fun counter => .string counter.text
  | .message => slots.message.map .string
  | .problems => slots.problems.map fun items => .array (items.map .string)
  | .isFinal => slots.isFinal.map .bool

theorem has_eq (slots : Slots) (field : Field) : slots.has field = (slots.value? field).isSome := by
  cases field <;> simp [has, value?]

theorem mapM_readText_of_all {items : List Json}
    (texts : (items.all fun item => item.string?.isSome) = true) :
    ∃ read, items.mapM readText = .ok read ∧ items = read.map .string := by
  induction items with
  | nil => exact ⟨[], rfl, rfl⟩
  | cons item items ih =>
      rw [List.all_cons, Bool.and_eq_true] at texts
      obtain ⟨read, success, same⟩ := ih texts.2
      cases item with
      | string s =>
          refine ⟨s :: read, ?_, by rw [same]; rfl⟩
          rw [List.mapM_cons, success]
          rfl
      | _ => cases texts.1

theorem mapM_readText_of_not_all {items : List Json}
    (mixed : (items.all fun item => item.string?.isSome) = false) :
    ∃ e, items.mapM readText = .error e := by
  induction items with
  | nil => cases mixed
  | cons item items ih =>
      rw [List.mapM_cons]
      cases item with
      | string s =>
          obtain ⟨e, failed⟩ := ih mixed
          rw [failed]
          exact ⟨e, rfl⟩
      | _ => exact ⟨_, rfl⟩

/-- A value of the right type is read, and nothing that was read before is lost. -/
theorem read_of_admits (slots : Slots) {field : Field} {v : Json}
    (admitted : field.admits v = true) :
    ∃ after, slots.read field v = .ok after ∧
      ∀ other, after.value? other =
        if field = other then some (field.asRead v) else slots.value? other := by
  cases field with
  | problems =>
      cases v with
      | array items =>
          obtain ⟨read, success, rfl⟩ := mapM_readText_of_all admitted
          refine ⟨{ slots with problems := some read }, ?_, ?_⟩
          · simp only [Slots.read, readTexts, success]
            rfl
          · intro other
            cases other <;> rfl
      | _ => cases admitted
  | _ =>
      cases v <;> cases admitted <;> exact ⟨_, rfl, fun other => by cases other <;> rfl⟩

theorem read_of_not_admits (slots : Slots) {field : Field} {v : Json}
    (mistyped : field.admits v = false) : ∃ e, slots.read field v = .error e := by
  cases field with
  | problems =>
      cases v with
      | array items =>
          obtain ⟨e, failed⟩ := mapM_readText_of_not_all mistyped
          refine ⟨e, ?_⟩
          simp only [Slots.read, readTexts, failed]
          rfl
      | _ => exact ⟨_, rfl⟩
  | _ => cases v <;> cases mistyped <;> exact ⟨_, rfl⟩

inductive Reads (kind : Kind) (slots : Slots) (key : String) (v : Json) :
    Except Json.Mismatch Slots → Prop
  /-- The kind has no field with the key. -/
  | passed (foreign : ∀ field ∈ kind.fields, field.key ≠ key) : Reads kind slots key v (.ok slots)
  /-- The field has been read before, or the value is not of its type. -/
  | refused {field : Field} (member : field ∈ kind.fields) (same : field.key = key)
      (unfit : slots.value? field ≠ none ∨ field.admits v = false) (e : Json.Mismatch) :
      Reads kind slots key v (.error e)
  | taken {field : Field} {after : Slots} (member : field ∈ kind.fields) (same : field.key = key)
      (fresh : slots.value? field = none) (admitted : field.admits v = true)
      (values : ∀ other, after.value? other =
        if field = other then some (field.asRead v) else slots.value? other) :
      Reads kind slots key v (.ok after)

theorem reads_readMember (kind : Kind) (slots : Slots) (key : String) (v : Json) :
    Reads kind slots key v (readMember kind slots (key, v)) := by
  unfold readMember
  cases found : kind.field? key with
  | none =>
      refine .passed ?_
      intro field member same
      rw [Kind.field?_eq_some_iff.mpr ⟨member, same⟩] at found
      cases found
  | some field =>
      obtain ⟨member, same⟩ := Kind.field?_eq_some_iff.mp found
      dsimp only
      split
      · rename_i known
        rw [has_eq, Option.isSome_iff_ne_none] at known
        exact .refused member same (Or.inl known) _
      · rename_i unknown
        have fresh : slots.value? field = none := by simpa [has_eq] using unknown
        cases admitted : field.admits v with
        | true =>
            obtain ⟨after, success, values⟩ := slots.read_of_admits admitted
            rw [success]
            exact .taken member same fresh admitted values
        | false =>
            obtain ⟨e, failed⟩ := slots.read_of_not_admits admitted
            rw [failed]
            exact .refused member same (Or.inr admitted) e

/-- The members leave the field alone, or it has not been read before and they have it once, with
a value of its type. -/
def Fits (slots : Slots) (members : Keyed Json) (field : Field) : Prop :=
  Keyed.entries field.key members = [] ∨
    slots.value? field = none ∧
      ∃ v, Keyed.entries field.key members = [v] ∧ field.admits v = true

theorem fits_cons_of_ne {slots : Slots} {key : String} {v : Json} {rest : Keyed Json}
    {field : Field} (apart : field.key ≠ key) :
    slots.Fits ((key, v) :: rest) field ↔ slots.Fits rest field := by
  simp only [Fits, Keyed.entries_cons, Ne.symm apart, ↓reduceIte]

/-- A field that does not fit the first member makes the rest irrelevant. -/
theorem not_fits_cons {slots : Slots} {v : Json} {rest : Keyed Json} {field : Field}
    (unfit : slots.value? field ≠ none ∨ field.admits v = false) :
    ¬ slots.Fits ((field.key, v) :: rest) field := by
  simp only [Fits, Keyed.entries_cons, ↓reduceIte, List.cons.injEq, reduceCtorEq, false_or]
  rintro ⟨fresh, first, ⟨rfl, _⟩, admitted⟩
  rcases unfit with known | mistyped
  · exact known fresh
  · rw [admitted] at mistyped
    cases mistyped

/-- Once a field has been read it must not come again. -/
theorem fits_cons_of_taken {slots after : Slots} {v : Json} {rest : Keyed Json} {field : Field}
    (fresh : slots.value? field = none) (admitted : field.admits v = true)
    (values : ∀ other, after.value? other =
      if field = other then some (field.asRead v) else slots.value? other) (other : Field) :
    slots.Fits ((field.key, v) :: rest) other ↔ after.Fits rest other := by
  by_cases same : field = other
  · subst same
    simp only [Fits, Keyed.entries_cons, values, fresh, ↓reduceIte, List.cons.injEq, reduceCtorEq,
      false_or, true_and, false_and, or_false]
    constructor
    · rintro ⟨_, ⟨_, single⟩, _⟩
      exact single
    · intro single
      exact ⟨v, ⟨rfl, single⟩, admitted⟩
  · have apart : other.key ≠ field.key := fun keys => same (Field.key_injective keys.symm)
    rw [fits_cons_of_ne apart]
    simp only [Fits, values, same, ↓reduceIte]

theorem foldlM_cons_of_ok {kind : Kind} {slots next : Slots} {member : String × Json}
    (rest : Keyed Json) (first : readMember kind slots member = .ok next) :
    (member :: rest).foldlM (readMember kind) slots = rest.foldlM (readMember kind) next := by
  rw [List.foldlM_cons, first]
  rfl

theorem foldlM_cons_of_error {kind : Kind} {slots : Slots} {member : String × Json}
    {e : Json.Mismatch} (rest : Keyed Json) (first : readMember kind slots member = .error e) :
    (member :: rest).foldlM (readMember kind) slots = .error e := by
  rw [List.foldlM_cons, first]
  rfl

/-- Members are read to the end exactly if all fields of the kind fit them. -/
theorem foldlM_readMember_ok_iff (kind : Kind) (members : Keyed Json) (slots : Slots) :
    (∃ after, members.foldlM (readMember kind) slots = .ok after) ↔
      ∀ field ∈ kind.fields, slots.Fits members field := by
  induction members generalizing slots with
  | nil => exact ⟨fun _ _ _ => Or.inl rfl, fun _ => ⟨slots, rfl⟩⟩
  | cons member rest ih =>
      obtain ⟨key, v⟩ := member
      have reads := reads_readMember kind slots key v
      generalize outcome : readMember kind slots (key, v) = first at reads
      cases reads with
      | passed foreign =>
          rw [foldlM_cons_of_ok rest outcome, ih]
          exact forall₂_congr fun field member => (fits_cons_of_ne (foreign field member)).symm
      | @refused field member same unfit e =>
          subst same
          rw [foldlM_cons_of_error rest outcome]
          constructor
          · rintro ⟨_, success⟩
            cases success
          · intro fits
            exact absurd (fits field member) (not_fits_cons unfit)
      | taken member same fresh admitted values =>
          subst same
          rw [foldlM_cons_of_ok rest outcome, ih]
          exact forall₂_congr fun field _ => (fits_cons_of_taken fresh admitted values field).symm

/-- After the last member every field has the value it came with. -/
theorem value?_foldlM_readMember {kind : Kind} {members : Keyed Json} {slots after : Slots}
    (success : members.foldlM (readMember kind) slots = .ok after) {field : Field}
    (member : field ∈ kind.fields) :
    after.value? field =
      ((Keyed.get? field.key members).map field.asRead).or (slots.value? field) := by
  induction members generalizing slots with
  | nil =>
      cases success
      rfl
  | cons first rest ih =>
      obtain ⟨key, v⟩ := first
      have reads := reads_readMember kind slots key v
      generalize outcome : readMember kind slots (key, v) = next at reads
      cases reads with
      | passed foreign =>
          rw [foldlM_cons_of_ok rest outcome] at success
          rw [ih success, Keyed.get?_cons, if_neg (Ne.symm (foreign field member))]
      | refused _ _ _ e =>
          rw [foldlM_cons_of_error rest outcome] at success
          cases success
      | @taken read next _ same _ _ values =>
          subst same
          rw [foldlM_cons_of_ok rest outcome] at success
          rw [ih success, Keyed.get?_cons, values]
          by_cases again : read = field
          · subst again
            -- The field has been read, so it cannot be among the other members.
            have fits := (foldlM_readMember_ok_iff kind rest next).mp ⟨after, success⟩ read member
            have single : Keyed.entries read.key rest = [] := by
              simpa [Fits, values] using fits
            have absent : Keyed.get? read.key rest = none := by
              rw [Keyed.get?_eq_head?_entries, single]
              rfl
            simp only [absent, ↓reduceIte, Option.map_none, Option.map_some, Option.none_or,
              Option.some_or]
          · have apart : read.key ≠ field.key := fun keys => again (Field.key_injective keys)
            simp only [again, apart, ↓reduceIte]

theorem bind_require_eq_ok_iff {α β : Type} {field : Field} {slot : Option α}
    {next : α → Except Json.Mismatch β} {b : β} :
    (require field slot >>= next) = .ok b ↔ ∃ a, slot = some a ∧ next a = .ok b := by
  cases slot <;> simp [require, bind, Except.bind]

/-- The message is the one with the values that have been read. -/
theorem toMessage_eq_ok_iff {slots : Slots} {kind : Kind} {m : Message} :
    slots.toMessage kind = .ok m ↔
      m.kind = kind ∧ ∀ field ∈ kind.fields, slots.value? field = m.value? field := by
  cases kind <;> cases m <;>
    simp [toMessage, bind_require_eq_ok_iff, Message.kind, Kind.fields, value?, Message.value?,
      Counter.text_inj, Json.map_string_inj, pure, Except.pure]

theorem exists_toMessage {slots : Slots} {kind : Kind}
    (complete : ∀ field ∈ kind.fields, slots.has field = true) :
    ∃ m, slots.toMessage kind = .ok m := by
  cases kind with
  | add =>
      obtain ⟨name, named⟩ := Option.isSome_iff_exists.mp (complete .name (by decide))
      exact ⟨.add name, by rw [toMessage, named]; rfl⟩
  | update =>
      obtain ⟨name, named⟩ := Option.isSome_iff_exists.mp (complete .name (by decide))
      obtain ⟨counter, counted⟩ := Option.isSome_iff_exists.mp (complete .counter (by decide))
      exact ⟨.update name counter, by rw [toMessage, named, counted]; rfl⟩
  | note =>
      obtain ⟨name, named⟩ := Option.isSome_iff_exists.mp (complete .name (by decide))
      obtain ⟨text, noted⟩ := Option.isSome_iff_exists.mp (complete .message (by decide))
      exact ⟨.note name text, by rw [toMessage, named, noted]; rfl⟩
  | finish =>
      obtain ⟨name, named⟩ := Option.isSome_iff_exists.mp (complete .name (by decide))
      obtain ⟨text, noted⟩ := Option.isSome_iff_exists.mp (complete .message (by decide))
      exact ⟨.finish name text, by rw [toMessage, named, noted]; rfl⟩
  | problems =>
      obtain ⟨items, listed⟩ := Option.isSome_iff_exists.mp (complete .problems (by decide))
      obtain ⟨isFinal, marked⟩ := Option.isSome_iff_exists.mp (complete .isFinal (by decide))
      exact ⟨.problems items isFinal, by rw [toMessage, listed, marked]; rfl⟩

end Slots

namespace Message

variable {kind : Kind} {members : Keyed Json} {m : Message}

/-- The members have every field of the kind once, with a value of its type. -/
def Complete (kind : Kind) (members : Keyed Json) : Prop :=
  ∀ field ∈ kind.fields, ∃ v, Keyed.entries field.key members = [v] ∧ field.admits v = true

theorem value?_empty (field : Field) : Slots.value? {} field = none := by
  cases field <;> rfl

/-- Every message has a value for each field of its kind. -/
theorem isSome_value? {field : Field} (member : field ∈ m.kind.fields) :
    (m.value? field).isSome = true := by
  cases m <;> cases field <;> simp_all [kind, Kind.fields, value?]

theorem ofMembers_of_read {slots : Slots}
    (read : members.foldlM (Slots.readMember kind) {} = .ok slots) :
    ofMembers kind members = slots.toMessage kind := by
  rw [ofMembers, read]
  rfl

theorem exists_read_of_ofMembers (success : ofMembers kind members = .ok m) :
    ∃ slots, members.foldlM (Slots.readMember kind) {} = .ok slots := by
  cases read : members.foldlM (Slots.readMember kind) {} with
  | ok slots => exact ⟨slots, rfl⟩
  | error e =>
      rw [ofMembers, read] at success
      cases success

theorem value?_of_read {slots : Slots}
    (read : members.foldlM (Slots.readMember kind) {} = .ok slots) {field : Field}
    (member : field ∈ kind.fields) :
    slots.value? field = (Keyed.get? field.key members).map field.asRead := by
  rw [Slots.value?_foldlM_readMember read member, value?_empty, Option.or_none]

theorem Complete.exists_read (complete : Complete kind members) :
    ∃ slots, members.foldlM (Slots.readMember kind) {} = .ok slots := by
  apply (Slots.foldlM_readMember_ok_iff kind members {}).mpr
  intro field member
  exact Or.inr ⟨value?_empty field, complete field member⟩

theorem Complete.isSome_get? (complete : Complete kind members) {field : Field}
    (member : field ∈ kind.fields) : (Keyed.get? field.key members).isSome = true := by
  obtain ⟨v, single, _⟩ := complete field member
  rw [Keyed.get?_eq_head?_entries, single]
  rfl

/-- Members make a message of a kind exactly if they are complete, and it has their values. -/
theorem ofMembers_eq_ok_iff :
    ofMembers kind members = .ok m ↔
      m.kind = kind ∧ Complete kind members ∧ ∀ field ∈ kind.fields,
        m.value? field = (Keyed.get? field.key members).map field.asRead := by
  constructor
  · intro success
    obtain ⟨slots, read⟩ := exists_read_of_ofMembers success
    rw [ofMembers_of_read read] at success
    obtain ⟨sameKind, values⟩ := Slots.toMessage_eq_ok_iff.mp success
    have loaded (field : Field) (member : field ∈ kind.fields) :
        m.value? field = (Keyed.get? field.key members).map field.asRead := by
      rw [← values field member, value?_of_read read member]
    refine ⟨sameKind, ?_, loaded⟩
    intro field member
    have fits := (Slots.foldlM_readMember_ok_iff kind members {}).mp ⟨slots, read⟩ field member
    rcases fits with absent | ⟨_, single⟩
    · have present := isSome_value? (sameKind ▸ member)
      rw [loaded field member, Keyed.get?_eq_head?_entries, absent] at present
      cases present
    · exact single
  · rintro ⟨sameKind, complete, values⟩
    obtain ⟨slots, read⟩ := complete.exists_read
    rw [ofMembers_of_read read, Slots.toMessage_eq_ok_iff]
    refine ⟨sameKind, ?_⟩
    intro field member
    rw [value?_of_read read member, values field member]

theorem exists_ofMembers_iff : (∃ m, ofMembers kind members = .ok m) ↔ Complete kind members := by
  constructor
  · rintro ⟨m, success⟩
    exact (ofMembers_eq_ok_iff.mp success).2.1
  · intro complete
    obtain ⟨slots, read⟩ := complete.exists_read
    rw [ofMembers_of_read read]
    apply Slots.exists_toMessage
    intro field member
    rw [Slots.has_eq, value?_of_read read member, Option.isSome_map]
    exact complete.isSome_get? member

end Message

end Runboard
