import Runboard.Board.Dispatch

set_option autoImplicit false

/-!
What a message does to a board, said once for every kind of message.

A message adds a row, edits the row its name stands for, or puts up a report. It is refused only
if it would edit a row and its name stands for none. `Applied` lists all that can happen; the
properties of whole runs are proved from it and do not look into `Board.apply` again.
-/

namespace Runboard

namespace Message

/-- The name whose row a message edits. -/
def target? : Message → Option String
  | .update name _ => some name
  | .note name _ => some name
  | .finish name _ => some name
  | _ => none

/-- What a message makes of the row it edits. -/
def edit : Message → Row → Row
  | .update _ counter, row => row.setCounter counter
  | .note _ text, row => row.setMessage text
  | .finish _ text, row => row.finish text
  | _, row => row

@[simp] theorem name_edit (m : Message) (row : Row) : (m.edit row).name = row.name := by
  cases m <;> rfl

theorem indicator_edit (m : Message) (row : Row) :
    (m.edit row).indicator = if m.kind = .finish then .done else row.indicator := by
  cases m <;> rfl

end Message

namespace Board

variable {b after : Board} {m : Message}

/-- The board after a message was applied. -/
inductive Applied (b : Board) : Message → Board → Prop
  | add (name : String) : Applied b (.add name) (b.addRow name)
  /-- A finished row is released from its name. -/
  | edit {m : Message} {name : String} {index : Nat} (target : m.target? = some name)
      (found : b.active.get? name = some index) :
      Applied b m
        { b with
          rows := b.rows.modify index m.edit
          active := if m.kind = .finish then b.active.erase name else b.active
          dirty := true }
  | problems (items : List String) (isFinal : Bool) :
      Applied b (.problems items isFinal)
        { b with report := some ⟨items, isFinal⟩, dirty := true }

/-- The message would edit a row, but its name stands for none. -/
def Refuses (b : Board) (m : Message) (name : String) : Prop :=
  m.target? = some name ∧ b.active.get? name = none

/-- Every message that edits a row looks its name up first. -/
theorem apply_target {name : String} (target : m.target? = some name) :
    b.apply m =
      match b.active.get? name with
      | none => .error ⟨m.kind, name⟩
      | some index => .ok
          { b with
            rows := b.rows.modify index m.edit
            active := if m.kind = .finish then b.active.erase name else b.active
            dirty := true } := by
  cases m <;> cases target <;> simp only [apply, modifyRow] <;>
    cases b.active.get? name <;> rfl

theorem apply_eq_ok_iff : b.apply m = .ok after ↔ Applied b m after := by
  constructor
  · intro success
    cases target : m.target? with
    | some name =>
        rw [apply_target target] at success
        cases found : b.active.get? name with
        | none => simp [found] at success
        | some index =>
            simp only [found, Except.ok.injEq] at success
            exact success ▸ .edit target found
    | none =>
        cases m <;> cases target <;> cases success
        · exact .add _
        · exact .problems _ _
  · intro applied
    cases applied with
    | add name => rfl
    | edit target found => rw [apply_target target, found]
    | problems items isFinal => rfl

/-- Nothing but a message about a name that stands for no row is refused. -/
theorem apply_eq_error_iff (e : UnknownRow) :
    b.apply m = .error e ↔ b.Refuses m e.name ∧ e.kind = m.kind := by
  cases target : m.target? with
  | some name =>
      rw [apply_target target]
      cases found : b.active.get? name with
      | none =>
          simp only [Except.error.injEq, Refuses, target, Option.some.injEq]
          constructor
          · rintro rfl
            exact ⟨⟨rfl, found⟩, rfl⟩
          · rintro ⟨⟨rfl, _⟩, same⟩
            cases e
            simp_all
      | some index =>
          simp only [reduceCtorEq, Refuses, target, Option.some.injEq, false_iff]
          rintro ⟨⟨rfl, absent⟩, _⟩
          simp [found] at absent
  | none =>
      have accepted : ∃ after, b.apply m = .ok after := by
        cases m <;> cases target <;> exact ⟨_, rfl⟩
      obtain ⟨after, success⟩ := accepted
      simp [success, Refuses, target]

/-- A message that arrives is applied, or it is refused and the board stays. -/
theorem accept_cases (b : Board) (m : Message) :
    Applied b m (b.accept m).board ∨ (∃ name, b.Refuses m name) ∧ (b.accept m).board = b := by
  cases outcome : b.apply m with
  | ok after =>
      have same : (b.accept m).board = after := by simp only [accept, outcome]
      exact Or.inl (same ▸ apply_eq_ok_iff.mp outcome)
  | error e =>
      have same : (b.accept m).board = b := by simp only [accept, outcome]
      exact Or.inr ⟨⟨e.name, ((apply_eq_error_iff e).mp outcome).1⟩, same⟩

theorem Applied.headings_eq (applied : Applied b m after) : after.headings = b.headings := by
  cases applied <;> rfl

/-- Whatever is applied shows in the flag. -/
theorem Applied.dirty_eq (applied : Applied b m after) : after.dirty = true := by
  cases applied <;> rfl

@[simp] theorem headings_accept (b : Board) (m : Message) :
    (b.accept m).board.headings = b.headings := by
  rcases accept_cases b m with applied | ⟨_, same⟩
  · exact applied.headings_eq
  · rw [same]

@[simp] theorem alerts_accept (b : Board) (m : Message) : (b.accept m).alerts = [] := by
  unfold accept
  split <;> rfl

def acceptAll (b : Board) (ms : List Message) : Board :=
  ms.foldl (fun b m => (b.accept m).board) b

@[simp] theorem acceptAll_nil (b : Board) : b.acceptAll [] = b := rfl

@[simp] theorem acceptAll_cons (b : Board) (m : Message) (ms : List Message) :
    b.acceptAll (m :: ms) = (b.accept m).board.acceptAll ms := rfl

theorem headings_acceptAll (b : Board) (ms : List Message) :
    (b.acceptAll ms).headings = b.headings := by
  induction ms generalizing b with
  | nil => rfl
  | cons m ms ih => rw [acceptAll_cons, ih, headings_accept]

/-- A frame that arrives is a message or leaves the board as it was. -/
theorem dispatch_cases (b : Board) (frame : Json) :
    (∃ m, Message.ofFrame frame = .ok m ∧ b.dispatch frame = b.accept m) ∨
      (∃ e, Message.ofFrame frame = .error e) ∧ (b.dispatch frame).board = b := by
  unfold dispatch
  cases decoded : Message.ofFrame frame with
  | ok m => exact Or.inl ⟨m, rfl, rfl⟩
  | error e =>
      refine Or.inr ⟨⟨e, rfl⟩, ?_⟩
      dsimp only
      split <;> rfl

def failureEntry (reason : String) : Log.Entry :=
  logEntry .warn ("Failed to handle message: " ++ reason)

/-- All that can come of a frame: the board after it, what is logged, and the alerts. -/
inductive Dispatched (b : Board) (frame : Json) : Step → Prop
  | applied {m : Message} {after : Board} (decoded : Message.ofFrame frame = .ok m)
      (applied : Applied b m after) :
      Dispatched b frame { board := after, log := b.applyLog m }
  | refused {m : Message} {e : UnknownRow} (decoded : Message.ofFrame frame = .ok m)
      (refused : b.Refuses m e.name) :
      Dispatched b frame { board := b, log := b.applyLog m ++ [failureEntry e.message] }
  | malformed {label : String} {reason : Json.Mismatch}
      (decoded : Message.ofFrame frame = .error (.malformed label reason)) :
      Dispatched b frame
        { board := b, log := [failureEntry (DecodeError.malformed label reason).message] }
  | unrecognized {e : DecodeError} {text : String} (decoded : Message.ofFrame frame = .error e)
      (shown : e.frameText? = some text) :
      Dispatched b frame
        { board := b
          log := [logEntry .error ("Unrecognized message: " ++ e.message)]
          alerts := [alertText text] }

theorem dispatched_dispatch (b : Board) (frame : Json) : Dispatched b frame (b.dispatch frame) := by
  unfold dispatch
  cases decoded : Message.ofFrame frame with
  | ok m =>
      dsimp only [accept]
      cases outcome : b.apply m with
      | ok after => exact .applied decoded (apply_eq_ok_iff.mp outcome)
      | error e => exact .refused decoded ((apply_eq_error_iff e).mp outcome).1
  | error e =>
      cases e with
      | malformed label reason => exact .malformed decoded
      | notAnObject _ => exact .unrecognized decoded rfl
      | unknownKind _ _ => exact .unrecognized decoded rfl

end Board

end Runboard
