import Runboard.Proofs.Board.Applied
import Runboard.Proofs.Message.Schema

set_option autoImplicit false

namespace Runboard

/-- The frame is an object with the tag of a kind. -/
def Message.recognizes : Json → Bool
  | .object members =>
    (((Keyed.get? Kind.tagKey members).bind Json.string?).bind Kind.ofTag?).isSome
  | _ => false

def alertsOf (frames : List Json) : List String :=
  (frames.filter fun frame => !Message.recognizes frame).map fun frame =>
    "Invalid message: " ++ frame.text

theorem alertsOf_recognized {frame : Json} (known : Message.recognizes frame = true) :
    alertsOf [frame] = [] := by
  simp only [alertsOf, List.filter_cons, known, Bool.not_true, Bool.false_eq_true, ↓reduceIte,
    List.filter_nil, List.map_nil]

theorem alertsOf_unrecognized {frame : Json} (unknown : Message.recognizes frame = false) :
    alertsOf [frame] = ["Invalid message: " ++ frame.text] := by
  simp only [alertsOf, List.filter_cons, unknown, Bool.not_false, ↓reduceIte, List.filter_nil,
    List.map_cons, List.map_nil]

theorem alertsOf_cons (frame : Json) (rest : List Json) :
    alertsOf (frame :: rest) = alertsOf [frame] ++ alertsOf rest := by
  rw [alertsOf, ← List.singleton_append, List.filter_append, List.map_append]
  rfl

namespace Message

variable {members : Keyed Json}

theorem recognizes_of_tagged {kind : Kind}
    (tagged : Keyed.get? Kind.tagKey members = some (.string kind.label)) :
    recognizes (.object members) = true := by
  have known : Kind.ofTag? kind.label = some kind :=
    Kind.ofTag?_eq_some_iff.mpr kind.label_eq_tag
  simp only [recognizes, tagged, Option.bind_some, Json.string?, known, Option.isSome_some]

theorem not_recognizes_of_untagged (untagged : ∀ s ∈ Kind.known,
      (Keyed.get? Kind.tagKey members).bind Json.string? ≠ some s) :
    recognizes (.object members) = false := by
  rw [recognizes, Option.isSome_eq_false_iff, Option.isNone_iff_eq_none, Option.bind_eq_none_iff]
  intro s found
  rw [Option.eq_none_iff_forall_ne_some]
  intro kind known
  have label : s = kind.label := (Kind.ofTag?_eq_some_iff.mp known).trans kind.label_eq_tag.symm
  exact untagged s (Kind.mem_known_iff.mpr ⟨kind, label⟩) found

/-- The frames that are not recognized are those that an error does not recognize; a malformed
frame is none of them. -/
theorem recognizes_eq_false_iff {frame : Json} :
    recognizes frame = false ↔ ∃ e, ofFrame frame = .error e ∧ e.isUnrecognized = true := by
  cases frame with
  | object members =>
      rcases tagged_or_untagged members with ⟨kind, tagged⟩ | untagged
      · rw [recognizes_of_tagged tagged, ofFrame_of_tagged tagged]
        constructor
        · intro unknown
          cases unknown
        · rintro ⟨e, failed, unrecognized⟩
          cases read : ofMembers kind members with
          | ok m =>
              rw [read] at failed
              cases failed
          | error reason =>
              rw [read] at failed
              cases failed
              cases unrecognized
      · rw [not_recognizes_of_untagged untagged, ofFrame_of_untagged untagged]
        exact ⟨fun _ => ⟨_, rfl, rfl⟩, fun _ => rfl⟩
  | _ => exact ⟨fun _ => ⟨_, rfl, rfl⟩, fun _ => rfl⟩

end Message

namespace Board

variable {b : Board} {frame : Json} {m : Message}

theorem alerts_dispatch (b : Board) (frame : Json) :
    (b.dispatch frame).alerts = alertsOf [frame] := by
  cases frame with
  | object members =>
      rcases Message.tagged_or_untagged members with ⟨kind, tagged⟩ | untagged
      · rw [alertsOf_recognized (Message.recognizes_of_tagged tagged), dispatch,
          Message.ofFrame_of_tagged tagged]
        cases Message.ofMembers kind members with
        | ok m => exact alerts_accept b m
        | error e => rfl
      · rw [alertsOf_unrecognized (Message.not_recognizes_of_untagged untagged), dispatch,
          Message.ofFrame_of_untagged untagged]
        rfl
  | _ => rfl

/-- The frame is a message, and it can be applied. -/
def applies (b : Board) (frame : Json) : Bool :=
  match Message.ofFrame frame with
  | .ok m => (b.apply m).isOk
  | .error _ => false

/-- The frames that are applied, each at its turn, when frames arrive one after another. -/
def appliedOf (b : Board) : List Json → List Json
  | [] => []
  | frame :: rest =>
    if b.applies frame then frame :: (b.dispatch frame).board.appliedOf rest
    else (b.dispatch frame).board.appliedOf rest

theorem board_dispatch_of_not_applies (ignored : b.applies frame = false) :
    (b.dispatch frame).board = b := by
  rcases dispatch_cases b frame with ⟨m, decoded, arrived⟩ | ⟨_, same⟩
  · cases outcome : b.apply m with
    | ok after => simp [applies, decoded, outcome, Except.isOk, Except.toBool] at ignored
    | error e => simp only [arrived, accept, outcome]
  · exact same

/-- The messages that can be refused are those that edit a row. -/
theorem refuses_iff {name : String} :
    b.Refuses m name ↔
      m.kind ∈ [.update, .note, .finish] ∧ m.rowName? = some name ∧ b.isActive name = false := by
  cases m <;> simp [Refuses, Message.target?, Message.kind, Message.rowName?, isActive]

theorem board_dispatchAll_appliedOf (b : Board) (frames : List Json) :
    (b.dispatchAll (b.appliedOf frames)).board = (b.dispatchAll frames).board := by
  induction frames generalizing b with
  | nil => rfl
  | cons frame rest ih =>
      cases applied : b.applies frame with
      | true =>
          simp only [appliedOf, applied, ↓reduceIte, dispatchAll]
          exact ih _
      | false =>
          have same := board_dispatch_of_not_applies applied
          simp only [appliedOf, applied, Bool.false_eq_true, ↓reduceIte, dispatchAll, same]
          exact ih b

/-- Without the other frames, the frames that are applied are all applied again. -/
theorem appliedOf_appliedOf (b : Board) (frames : List Json) :
    b.appliedOf (b.appliedOf frames) = b.appliedOf frames := by
  induction frames generalizing b with
  | nil => rfl
  | cons frame rest ih =>
      cases applied : b.applies frame with
      | true => simp only [appliedOf, applied, ↓reduceIte, ih]
      | false =>
          have same := board_dispatch_of_not_applies applied
          simp only [appliedOf, applied, Bool.false_eq_true, ↓reduceIte, same, ih]

theorem alerts_dispatchAll (b : Board) (frames : List Json) :
    (b.dispatchAll frames).alerts = alertsOf frames := by
  induction frames generalizing b with
  | nil => rfl
  | cons frame rest ih =>
      rw [alertsOf_cons, ← alerts_dispatch b frame, ← ih (b.dispatch frame).board]
      rfl

/-- The board at the end of a run is that of the frames that are applied, whatever comes between
them. A message is refused exactly if it is about a row, does not add it, and its name stands for
none; and the alerts are those of the frames that are not recognized. -/
theorem dispatchAll_ignores_bad_frames (b : Board) (frames : List Json) :
    (b.dispatchAll frames).board = (b.dispatchAll (b.appliedOf frames)).board ∧
      b.appliedOf (b.appliedOf frames) = b.appliedOf frames ∧
      (∀ (s : Board) (m : Message), (∃ e, s.apply m = .error e) ↔
        m.kind ∈ [.update, .note, .finish] ∧
          ∃ name, m.rowName? = some name ∧ s.isActive name = false) ∧
      (b.dispatchAll frames).alerts = alertsOf frames ∧
      ∀ frame, Message.recognizes frame = false ↔
        ∃ e, Message.ofFrame frame = .error e ∧ e.isUnrecognized = true := by
  refine ⟨(b.board_dispatchAll_appliedOf frames).symm, b.appliedOf_appliedOf frames, ?_,
    b.alerts_dispatchAll frames, fun _ => Message.recognizes_eq_false_iff⟩
  intro s m
  constructor
  · rintro ⟨e, failed⟩
    obtain ⟨edits, named, inactive⟩ := refuses_iff.mp ((apply_eq_error_iff e).mp failed).1
    exact ⟨edits, e.name, named, inactive⟩
  · rintro ⟨edits, name, named, inactive⟩
    have refused := refuses_iff.mpr ⟨edits, named, inactive⟩
    exact ⟨⟨m.kind, name⟩, (apply_eq_error_iff _).mpr ⟨refused, rfl⟩⟩

/-- A counter that comes too early, a frame that is no object, and one without its name. -/
example :
    let update := (Message.update "paper" ⟨"1"⟩).toFrame
    let add := (Message.add "paper").toFrame
    let frames := [update, .null, add, .object [("message_type", .string Kind.add.tag)], update]
    (Board.empty {}).appliedOf frames = [add, update] ∧
      ((Board.empty {}).dispatchAll frames).alerts = ["Invalid message: null"] :=
  ⟨rfl, rfl⟩

end Board

end Runboard
