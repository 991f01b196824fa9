import Runboard.Display
import Runboard.Proofs.Board.Isolation

set_option autoImplicit false

namespace Runboard.Board

variable {b : Board} {m : Message}

inductive Request
  | dispatch (frame : Json)
  | accept (m : Message)
  | takeDirty

namespace Request

def perform (b : Board) : Request → Board
  | .dispatch frame => (b.dispatch frame).board
  | .accept m => (b.accept m).board
  | .takeDirty => b.takeDirty.2

/-- The request brings a message that the board can apply. -/
def applied (b : Board) : Request → Bool
  | .dispatch frame => b.applies frame
  | .accept m => (b.apply m).isOk
  | .takeDirty => false

end Request

def performAll (b : Board) (requests : List Request) : Board := requests.foldl Request.perform b

/-- One of the requests, at its turn, brings a message that is applied. -/
def SomeApplied (b : Board) (requests : List Request) : Prop :=
  ∃ early request late, requests = early ++ request :: late ∧
    request.applied (b.performAll early) = true

@[simp] theorem performAll_nil (b : Board) : b.performAll [] = b := rfl

@[simp] theorem performAll_cons (b : Board) (request : Request) (rest : List Request) :
    b.performAll (request :: rest) = (request.perform b).performAll rest := rfl

theorem performAll_concat (b : Board) (requests : List Request) (request : Request) :
    b.performAll (requests ++ [request]) = request.perform (b.performAll requests) := by
  rw [performAll, List.foldl_append]
  rfl

theorem not_someApplied_nil : ¬ SomeApplied b [] := by
  rintro ⟨early, request, late, split, _⟩
  cases early <;> cases split

theorem someApplied_cons {request : Request} {rest : List Request} :
    SomeApplied b (request :: rest) ↔
      request.applied b = true ∨ SomeApplied (request.perform b) rest := by
  constructor
  · rintro ⟨early, other, late, split, applied⟩
    cases early with
    | nil =>
        cases split
        exact Or.inl applied
    | cons first early =>
        cases split
        exact Or.inr ⟨early, other, late, rfl, applied⟩
  · rintro (applied | ⟨early, other, late, rfl, applied⟩)
    · exact ⟨[], request, rest, rfl, applied⟩
    · exact ⟨request :: early, other, late, rfl, applied⟩

/-! One request. -/

theorem dirty_accept_of_isOk (success : (b.apply m).isOk = true) :
    (b.accept m).board.dirty = true := by
  cases outcome : b.apply m with
  | ok after =>
      have flagged := (apply_eq_ok_iff.mp outcome).dirty_eq
      simp only [accept, outcome, flagged]
  | error e =>
      rw [outcome] at success
      cases success

theorem accept_of_not_isOk (failure : (b.apply m).isOk = false) : (b.accept m).board = b := by
  cases outcome : b.apply m with
  | ok after =>
      rw [outcome] at failure
      cases failure
  | error e => simp only [accept, outcome]

theorem dirty_dispatch_of_applies {frame : Json} (applied : b.applies frame = true) :
    (b.dispatch frame).board.dirty = true := by
  unfold applies at applied
  cases decoded : Message.ofFrame frame with
  | ok m =>
      rw [decoded] at applied
      have arrived : b.dispatch frame = b.accept m := by simp only [dispatch, decoded]
      rw [arrived]
      exact dirty_accept_of_isOk applied
  | error e =>
      rw [decoded] at applied
      cases applied

/-- A message that is applied sets the flag. -/
theorem Request.dirty_perform {request : Request} (applied : request.applied b = true) :
    (request.perform b).dirty = true := by
  cases request with
  | dispatch frame => exact dirty_dispatch_of_applies applied
  | accept m => exact dirty_accept_of_isOk applied
  | takeDirty => cases applied

/-- Whatever else arrives leaves the flag and the whole board alone. -/
theorem Request.perform_of_not_applied {request : Request} (other : request ≠ .takeDirty)
    (ignored : request.applied b = false) : request.perform b = b := by
  cases request with
  | dispatch frame => exact board_dispatch_of_not_applies ignored
  | accept m => exact accept_of_not_isOk ignored
  | takeDirty => exact absurd rfl other

/-- Nothing but an applied message sets the flag, and nothing but a question takes it back. -/
theorem Request.dirty_perform_iff {request : Request} (other : request ≠ .takeDirty) :
    (request.perform b).dirty = true ↔ b.dirty = true ∨ request.applied b = true := by
  cases applied : request.applied b with
  | true =>
      have flagged := request.dirty_perform applied
      exact ⟨fun _ => Or.inr rfl, fun _ => flagged⟩
  | false =>
      rw [request.perform_of_not_applied other applied]
      exact ⟨Or.inl, fun either => either.resolve_right Bool.false_ne_true⟩

/-! Requests between two questions. -/

theorem dirty_performAll_iff {requests : List Request} (silent : .takeDirty ∉ requests) :
    (b.performAll requests).dirty = true ↔ b.dirty = true ∨ SomeApplied b requests := by
  induction requests generalizing b with
  | nil => exact ⟨Or.inl, fun either => either.resolve_right not_someApplied_nil⟩
  | cons request rest ih =>
      obtain ⟨other, later⟩ := not_or.mp (mt List.mem_cons.mpr silent)
      rw [performAll_cons, ih later, Request.dirty_perform_iff (Ne.symm other), someApplied_cons,
        or_assoc]

theorem performAll_of_not_someApplied {requests : List Request} (silent : .takeDirty ∉ requests)
    (ignored : ¬ SomeApplied b requests) : b.performAll requests = b := by
  induction requests with
  | nil => rfl
  | cons request rest ih =>
      obtain ⟨other, later⟩ := not_or.mp (mt List.mem_cons.mpr silent)
      rw [someApplied_cons, not_or, Bool.not_eq_true] at ignored
      have same := request.perform_of_not_applied (Ne.symm other) ignored.1
      rw [same] at ignored
      rw [performAll_cons, same]
      exact ih later ignored.2

/-- At the start and right after a question the flag is not set. -/
theorem clean_performAll (headings : Headings) {requests : List Request}
    (opened : requests = [] ∨ requests.getLast? = some .takeDirty) :
    ((empty headings).performAll requests).dirty = false := by
  rcases opened with rfl | asked
  · rfl
  · obtain ⟨before, rfl⟩ := List.getLast?_eq_some_iff.mp asked
    rw [performAll_concat]
    rfl

/-- Of all requests to a new board let some be made since its flag was last taken, or since the
start. The flag, taken now, tells whether one of them brought a message that was applied. If it
says no, then the rows with their marks, the number of active names and the report are those of
that earlier time, and so are the lines on display. -/
theorem takeDirty_exact (headings : Headings) {before since : List Request}
    (opened : before = [] ∨ before.getLast? = some .takeDirty) (silent : .takeDirty ∉ since) :
    let start := (empty headings).performAll before
    let now := (empty headings).performAll (before ++ since)
    (now.takeDirty.1 = true ↔
        ∃ early request late, since = early ++ request :: late ∧
          request.applied ((empty headings).performAll (before ++ early)) = true) ∧
      (now.takeDirty.1 = false →
        now.view.rows = start.view.rows ∧ now.view.activeCount = start.view.activeCount ∧
          now.view.report = start.view.report ∧
          Display.viewLines now.view = Display.viewLines start.view) := by
  intro start now
  have clean : start.dirty = false := clean_performAll headings opened
  have onward (requests : List Request) :
      (empty headings).performAll (before ++ requests) = start.performAll requests :=
    List.foldl_append
  have told : now.dirty = true ↔ SomeApplied start since := by
    rw [show now = start.performAll since from onward since, dirty_performAll_iff silent, clean]
    exact ⟨fun either => either.resolve_left Bool.false_ne_true, Or.inr⟩
  simp only [onward]
  refine ⟨told, ?_⟩
  intro unflagged
  have ignored : ¬ SomeApplied start since := by
    rw [← told]
    exact Bool.eq_false_iff.mp unflagged
  have kept : now = start := (onward since).trans (performAll_of_not_someApplied silent ignored)
  rw [kept]
  exact ⟨rfl, rfl, rfl, rfl⟩

/-- A frame that is no message and a counter for an unknown name bring no change, and the comment
after them does. -/
theorem takeDirty_exact_after_ignored :
    let before := [.dispatch (Message.add "paper").toFrame, .takeDirty]
    let ignored := [.dispatch .null, .accept (.update "ghost" ⟨"1"⟩)]
    let note := Request.accept (.note "paper" "page 1")
    let start := (empty {}).performAll before
    let now := (empty {}).performAll (before ++ ignored)
    before.getLast? = some .takeDirty ∧ .takeDirty ∉ ignored ++ [note] ∧
      now.takeDirty.1 = false ∧ Display.viewLines now.view = Display.viewLines start.view ∧
      ((empty {}).performAll (before ++ (ignored ++ [note]))).takeDirty.1 = true := by
  intro before ignored note start now
  have asked : before.getLast? = some .takeDirty := rfl
  have silent : .takeDirty ∉ ignored ++ [note] := by simp [ignored, note]
  have unflagged : now.takeDirty.1 = false := rfl
  have quiet := takeDirty_exact {} (Or.inr asked) fun again => silent (List.mem_append_left _ again)
  have noted := takeDirty_exact {} (Or.inr asked) silent
  refine ⟨asked, silent, unflagged, (quiet.2 unflagged).2.2.2, noted.1.mpr ?_⟩
  exact ⟨ignored, note, [], rfl, rfl⟩

end Runboard.Board
