import Runboard.Proofs.Board.Isolation
import Runboard.Proofs.Feed.Composition
import Runboard.Proofs.Json.Ordered

set_option autoImplicit false

namespace Runboard

/-! Scripts give frames in order. -/

namespace Script

theorem ordered_of_readLine {line : List Char} {frame : Json}
    (read : readLine line = .ok (some frame)) : frame.Ordered := by
  unfold readLine at read
  split at read
  · cases read
  · cases parsed : Json.parseChars line with
    | error reason =>
        rw [parsed] at read
        cases read
    | ok v =>
        rw [parsed] at read
        cases read
        exact Json.ordered_of_parseChars parsed

theorem ordered_of_readLines {number : Nat} {lines : List (List Char)} {frames : List Json}
    (read : readLines number lines = .ok frames) : ∀ frame ∈ frames, frame.Ordered := by
  induction lines generalizing number frames with
  | nil =>
      cases read
      exact List.forall_mem_nil _
  | cons line lines ih =>
      rw [readLines] at read
      cases first : readLine line with
      | error reason =>
          rw [first] at read
          cases read
      | ok frame =>
          rw [first] at read
          cases rest : readLines (number + 1) lines with
          | error e =>
              rw [rest] at read
              cases read
          | ok later =>
              rw [rest] at read
              cases read
              refine List.forall_mem_append.mpr ⟨?_, ih rest⟩
              intro v member
              rw [Option.mem_toList] at member
              exact ordered_of_readLine (first.trans (congrArg _ member))

theorem ordered_of_parse {text : String} {script : Script} (read : parse text = .ok script) :
    ∀ frame ∈ script.frames, frame.Ordered :=
  ordered_of_readLines (parse_eq_ok_iff.mp read)

end Script

/-- A frame that an alert shows as it is. It is not recognized, its members are in order, it has no
floats and no integers beyond 64 bits, and at most 127 of its arrays and objects are open at
once. -/
structure Stray (frame : Json) : Prop where
  unrecognized : Message.recognizes frame = false
  ordered : frame.Ordered
  fits : frame.Fits 127

namespace Stray

variable {frame other : Json}

theorem not_mem_text (stray : Stray frame) : '\n' ∉ frame.text.toList := by
  rw [Json.text, String.toList_ofList]
  intro member
  exact absurd (stray.fits.printed '\n' member) (by decide)

theorem parse_text (stray : Stray frame) : Script.parse frame.text = .ok ⟨[frame]⟩ :=
  Script.parse_of_valid stray.not_mem_text (stray.ordered.parse_text stray.fits)

theorem alerts_dispatch (stray : Stray frame) (b : Board) :
    (b.dispatch frame).alerts = ["Invalid message: " ++ frame.text] := by
  rw [b.alerts_dispatch, alertsOf_unrecognized stray.unrecognized]

/-- Behind the same words only the same text makes the same alert. -/
theorem eq_of_alerts (stray : Stray frame) (stray' : Stray other) (b b' : Board)
    (same : (b.dispatch frame).alerts = (b'.dispatch other).alerts) : frame = other := by
  rw [stray.alerts_dispatch, stray'.alerts_dispatch] at same
  have texts : frame.text = other.text :=
    (String.append_right_inj _).mp (List.singleton_inj.mp same)
  exact stray.ordered.eq_of_text stray'.ordered stray.fits stray'.fits texts

end Stray

/-- The alert for a frame that is not recognized ends in a text on one line that gives back this
frame, and no other, when it is read as a script. To replay it raises the same alert on any board,
and no other such frame does. The order of members is no restriction on frames from a script. -/
theorem alert_replays_frame {frame : Json} (stray : Stray frame) :
    (∃ text : String, '\n' ∉ text.toList ∧ Script.parse text = .ok ⟨[frame]⟩ ∧
        (∀ b : Board, (b.dispatch frame).alerts = ["Invalid message: " ++ text]) ∧
        ∀ script, Script.parse text = .ok script → ∀ b b' : Board,
          (b'.dispatchAll script.frames).alerts = (b.dispatch frame).alerts) ∧
      (∀ other, Stray other → ∀ b b' : Board,
        (b.dispatch frame).alerts = (b'.dispatch other).alerts → frame = other) ∧
      ∀ text script, Script.parse text = .ok script → ∀ read ∈ script.frames, read.Ordered := by
  refine ⟨⟨frame.text, stray.not_mem_text, stray.parse_text, stray.alerts_dispatch, ?_⟩, ?_, ?_⟩
  · intro script read b b'
    rw [stray.parse_text] at read
    cases read
    rw [b'.alerts_dispatchAll, b.alerts_dispatch]
  · intro other stray' b b' same
    exact stray.eq_of_alerts stray' b b' same
  · intro text script read
    exact Script.ordered_of_parse read

/-- A frame of a kind that does not exist, with a line feed in a key, the greatest integer and empty
values in it. -/
def strangeFrame : Json :=
  .object [("a\nb", .array [.number (.integer 18446744073709551615), .object [], .array [], .null]),
    ("message_type", .string "progress-bar-\u2028")]

theorem stray_strangeFrame : Stray strangeFrame := by
  have list : ∀ item ∈ [Json.number (.integer 18446744073709551615), .object [], .array [], .null],
      item.Ordered ∧ item.Fits 125 := by
    simp only [List.forall_mem_cons, List.not_mem_nil, false_implies, implies_true, and_true]
    exact ⟨⟨.number _, .integer ⟨by decide, by decide⟩⟩,
      ⟨.object .nil (by simp), .object (by simp)⟩, ⟨.array (by simp), .array (by simp)⟩, .null,
      .null⟩
  refine ⟨by decide, .object (List.pairwise_pair.mpr (by decide)) ?_, .object ?_⟩
  · simp only [List.forall_mem_cons, List.not_mem_nil, false_implies, implies_true, and_true]
    exact ⟨.array fun item listed => (list item listed).1, .string _⟩
  · simp only [List.forall_mem_cons, List.not_mem_nil, false_implies, implies_true, and_true]
    exact ⟨.array fun item listed => (list item listed).2, .string _⟩

theorem alert_replays_strange_frame :
    Stray strangeFrame ∧ ∃ text : String, '\n' ∉ text.toList ∧
      Script.parse text = .ok ⟨[strangeFrame]⟩ ∧
      ∀ b : Board, (b.dispatch strangeFrame).alerts = ["Invalid message: " ++ text] := by
  obtain ⟨text, oneLine, read, alerts, _⟩ := (alert_replays_frame stray_strangeFrame).1
  exact ⟨stray_strangeFrame, text, oneLine, read, alerts⟩

end Runboard
