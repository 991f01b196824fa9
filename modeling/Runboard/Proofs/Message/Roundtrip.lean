import Runboard.Feed.Channel
import Runboard.Proofs.Board.Applied
import Runboard.Proofs.Message.Schema

set_option autoImplicit false

namespace Runboard

namespace Message

variable {m : Message}

def written (m : Message) : Keyed Json := Keyed.ofPairs m.members

theorem sorted_written (m : Message) : m.written.Sorted := Keyed.sorted_ofPairs m.members

theorem get?_tagKey_written (m : Message) :
    Keyed.get? Kind.tagKey m.written = some (.string m.label) := by
  rw [label, Kind.label_eq_tag]
  cases m <;>
    simp [written, Keyed.ofPairs, members, Keyed.get?_insert, Field.key, Kind.tagKey, kind]

theorem get?_key_written (m : Message) (field : Field) :
    Keyed.get? field.key m.written = m.value? field := by
  cases m <;> cases field <;>
    simp [written, Keyed.ofPairs, members, Keyed.get?_insert, Field.key, Kind.tagKey, value?]

/-- A message has no value that its field does not admit. -/
theorem admits_of_value? {field : Field} {v : Json} (has : m.value? field = some v) :
    field.admits v = true ∧ field.asRead v = v := by
  cases m <;> cases field <;> cases has <;> simp [Field.admits, Field.asRead, Json.string?]

/-- A message is read from its own frame. -/
theorem ofFrame_toFrame (m : Message) : ofFrame m.toFrame = .ok m := by
  show ofFrame (.object m.written) = .ok m
  refine ofFrame_object_eq_ok_iff.mpr ⟨m.get?_tagKey_written, ?_, ?_⟩
  · intro field member
    obtain ⟨v, has⟩ := Option.isSome_iff_exists.mp (isSome_value? member)
    refine ⟨v, ?_, (admits_of_value? has).1⟩
    rw [m.sorted_written.entries_eq, get?_key_written, has, Option.toList_some]
  · intro field member
    obtain ⟨v, has⟩ := Option.isSome_iff_exists.mp (isSome_value? member)
    rw [get?_key_written, has, Option.map_some, (admits_of_value? has).2]

/-- The frame has the tag and the fields of the kind, and no other key. -/
theorem key_of_mem_written {entry : String × Json} (member : entry ∈ m.written) :
    entry.1 = Kind.tagKey ∨ ∃ field ∈ m.kind.fields, entry.1 = field.key := by
  have listed : entry ∈ m.members := Keyed.mem_of_mem_ofPairs member
  cases m <;> simp only [members, List.mem_cons, List.not_mem_nil, or_false] at listed <;>
    rcases listed with rfl | rfl | rfl <;> simp [kind, Kind.fields]

/-- What is left of the members of a frame that was read as a message and written again. -/
structure Kept (m : Message) (members kept : Keyed Json) : Prop where
  tag_eq : Keyed.get? Kind.tagKey kept = Keyed.get? Kind.tagKey members
  field_eq : ∀ field ∈ m.kind.fields, ∃ v shown, Keyed.get? field.key members = some v ∧
    Keyed.get? field.key kept = some shown ∧ field.Keeps v shown
  nothing_else : ∀ entry ∈ kept,
    entry.1 = Kind.tagKey ∨ ∃ field ∈ m.kind.fields, entry.1 = field.key

theorem Conforms.kept {members : Keyed Json} (conforms : Conforms members m) :
    Kept m members m.written := by
  refine ⟨?_, ?_, fun entry => key_of_mem_written⟩
  · rw [get?_tagKey_written, conforms.tagged]
  · intro field member
    obtain ⟨v, shown, present, has, keeps⟩ := conforms.values field member
    exact ⟨v, shown, present, (m.get?_key_written field).trans has, keeps⟩

/-- A message that is sent arrives as it was, and does to any board what the message itself does.
A frame that is read as a message and written again keeps the tag and the fields of its kind,
except that a numeric counter becomes its text, and nothing else. -/
theorem frame_roundtrip (m : Message) :
    (∀ c : Channel, c.receiving = true → ∃ members,
      c.send m = .ok { c with queue := c.queue ++ [.object members] } ∧
        Keyed.get? Kind.tagKey members = some (.string m.label) ∧
        ofFrame (.object members) = .ok m ∧
        ∀ b : Board, (b.dispatch (.object members)).board = (b.accept m).board ∧
          (b.dispatch (.object members)).alerts = []) ∧
      ∀ f, ofFrame f = .ok m → ∃ members kept, f = .object members ∧
        m.toFrame = .object kept ∧ Kept m members kept := by
  constructor
  · intro c listening
    have read := ofFrame_toFrame m
    refine ⟨m.written, ?_, m.get?_tagKey_written, read, ?_⟩
    · simp only [Channel.send, Channel.post, listening, ↓reduceIte]
      rfl
    · intro b
      have same : b.dispatch m.toFrame = b.accept m := by
        simp only [Board.dispatch, read]
      exact ⟨congrArg Board.Step.board same, same ▸ b.alerts_accept m⟩
  · intro f read
    obtain ⟨members, _, rfl, _⟩ := exists_ofFrame_iff.mp ⟨m, read⟩
    exact ⟨members, m.written, rfl, rfl, (conforms_of_ofFrame read).kept⟩

/-- Frames with a number for their counter, an integer and a float, and a key that their kind does
not have. -/
theorem frame_roundtrip_number :
    let members (counter : Json.Numeral) : Keyed Json := [("counter", .number counter),
      ("message", .null), ("message_type", .string "progress-bar-update"),
      ("name", .string "paper")]
    let half : Json.Numeral := .float ⟨true, 5629499534213120, -51⟩
    let Survives (counter : Json.Numeral) (text : String) : Prop :=
      ofFrame (.object (members counter)) = .ok (.update "paper" ⟨text⟩) ∧
        ∃ kept, toFrame (.update "paper" ⟨text⟩) = .object kept ∧
          Kept (.update "paper" ⟨text⟩) (members counter) kept
    Json.parse "-2.5" = .ok (.number half) ∧ Survives half "-2.5" ∧
      Survives (.integer (-3)) "-3" := by
  intro members half Survives
  have survives (counter : Json.Numeral) : Survives counter (Counter.numberText counter) := by
    have read : ofFrame (.object (members counter)) =
        .ok (.update "paper" ⟨Counter.numberText counter⟩) := rfl
    obtain ⟨_, kept, same, written, rest⟩ := (frame_roundtrip _).2 _ read
    cases same
    exact ⟨read, kept, written, rest⟩
  have texts : Counter.numberText half = "-2.5" ∧ Counter.numberText (.integer (-3)) = "-3" := by
    decide +kernel
  exact ⟨rfl, texts.1 ▸ survives half, texts.2 ▸ survives (.integer (-3))⟩

end Message

namespace Board

/-- The frame of a message does to a board what the message does. -/
theorem dispatch_toFrame (b : Board) (m : Message) : b.dispatch m.toFrame = b.accept m := by
  simp only [dispatch, Message.ofFrame_toFrame]

theorem dispatchAll_toFrame (b : Board) (ms : List Message) :
    (b.dispatchAll (ms.map Message.toFrame)).board = b.acceptAll ms ∧
      (b.dispatchAll (ms.map Message.toFrame)).alerts = [] := by
  induction ms generalizing b with
  | nil => exact ⟨rfl, rfl⟩
  | cons m ms ih =>
      obtain ⟨board, alerts⟩ := ih (b.accept m).board
      simp only [List.map_cons, dispatchAll, dispatch_toFrame, board, alerts, alerts_accept,
        acceptAll_cons, List.append_nil, and_self]

end Board

end Runboard
