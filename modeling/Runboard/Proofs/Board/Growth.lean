import Runboard.Proofs.Board.Consistency

set_option autoImplicit false

namespace Runboard.Board

/-- What later boards keep of an earlier one. -/
structure Grows (before after : Board) : Prop where
  row : ∀ (index : Nat) (row : RowView), before.view.rows[index]? = some row →
    ∃ later, after.view.rows[index]? = some later ∧ later.name = row.name ∧
      (row.indicator = .done → later.indicator = .done) ∧ (row.active = false → later = row)
  report : before.report.isSome = true → after.report.isSome = true
  headings : after.headings = before.headings

namespace Grows

theorem refl (b : Board) : Grows b b :=
  ⟨fun _ row here => ⟨row, here, rfl, id, fun _ => rfl⟩, id, rfl⟩

theorem trans {first second third : Board} (early : Grows first second)
    (late : Grows second third) : Grows first third := by
  refine ⟨?_, fun present => late.report (early.report present),
    late.headings.trans early.headings⟩
  intro index row here
  obtain ⟨middle, there, named, done, frozen⟩ := early.row index row here
  obtain ⟨last, found, named', done', frozen'⟩ := late.row index middle there
  refine ⟨last, found, named'.trans named, fun isDone => done' (done isDone), ?_⟩
  intro inactive
  have same := frozen inactive
  rw [same] at frozen'
  exact frozen' inactive

end Grows

variable {b after : Board} {m : Message}

/-- A new row moves its name away from all rows before it. -/
theorem grows_addRow (b : Board) (name : String) : Grows b (b.addRow name) := by
  refine ⟨?_, id, rfl⟩
  intro index row here
  rw [getElem?_view_rows] at here
  obtain ⟨entry, present, rfl⟩ := Option.map_eq_some_iff.mp here
  have inside := (List.getElem?_eq_some_iff.mp present).1
  have kept : (b.addRow name).rows[index]? = some entry := by
    rw [addRow, List.getElem?_append_left inside, present]
  refine ⟨(b.addRow name).viewRow entry index, by rw [getElem?_view_rows, kept]; rfl, rfl, id, ?_⟩
  intro inactive
  have apart : ¬ b.active.get? entry.name = some index := of_decide_eq_false inactive
  have apart' : ¬ (b.addRow name).active.get? entry.name = some index := by
    simp only [addRow, Keyed.get?_insert]
    split
    · intro same
      cases same
      omega
    · exact apart
  simp only [viewRow, apart, apart']

/-- An edit reaches the row its name stands for and no other one. -/
theorem Consistent.grows_edit (consistent : Consistent b) {name : String} {target : Nat}
    (found : b.active.get? name = some target) (m : Message) :
    Grows b
      { b with
        rows := b.rows.modify target m.edit
        active := if m.kind = .finish then b.active.erase name else b.active
        dirty := true } := by
  refine ⟨?_, id, rfl⟩
  intro index row here
  rw [getElem?_view_rows] at here
  obtain ⟨entry, present, rfl⟩ := Option.map_eq_some_iff.mp here
  rw [getElem?_view_rows, List.getElem?_modify, present]
  by_cases same : target = index
  · subst same
    obtain ⟨standing, there, named, spinning⟩ :=
      ((consistent.standing name target).mp found).present
    obtain rfl : entry = standing := Option.some.inj (present.symm.trans there)
    refine ⟨_, rfl, ?_, ?_, ?_⟩
    · simp [viewRow]
    · intro isDone
      exact absurd (spinning.symm.trans isDone) (by decide)
    · intro inactive
      have apart : ¬ b.active.get? entry.name = some target := of_decide_eq_false inactive
      rw [named] at apart
      exact absurd found apart
  · refine ⟨_, rfl, ?_, ?_, ?_⟩
    · simp [viewRow, same]
    · simp only [viewRow, same, ↓reduceIte]
      exact id
    · intro inactive
      have apart : ¬ b.active.get? entry.name = some index := of_decide_eq_false inactive
      simp only [viewRow, same, ↓reduceIte, get?_edited consistent.sorted]
      split <;> simp [apart]

theorem Consistent.grows_applied (consistent : Consistent b) (applied : Applied b m after) :
    Grows b after := by
  cases applied with
  | add name => exact grows_addRow b name
  | edit target found => exact consistent.grows_edit found m
  | problems items isFinal =>
      exact ⟨fun _ row here => ⟨row, here, rfl, id, fun _ => rfl⟩, fun _ => rfl, rfl⟩

theorem Consistent.grows_dispatch (consistent : Consistent b) (frame : Json) :
    Grows b (b.dispatch frame).board := by
  rcases dispatch_cases b frame with ⟨m, _, arrived⟩ | ⟨_, same⟩
  · rw [arrived]
    rcases accept_cases b m with applied | ⟨_, same⟩
    · exact consistent.grows_applied applied
    · rw [same]
      exact Grows.refl b
  · rw [same]
    exact Grows.refl b

theorem Consistent.grows_dispatchAll (consistent : Consistent b) (frames : List Json) :
    Grows b (b.dispatchAll frames).board := by
  induction frames generalizing b with
  | nil => exact Grows.refl b
  | cons frame rest ih =>
      exact (consistent.grows_dispatch frame).trans (ih (consistent.dispatch frame))

/-! Which frames take a name away from its row. -/

/-- The message adds a row under the name, or finishes the one that the name stands for. -/
def Closes (name : String) (m : Message) : Prop := m = .add name ∨ ∃ text, m = .finish name text

theorem closes_of_target {name other : String} (target : m.target? = some other) :
    Closes name m ↔ m.kind = .finish ∧ other = name := by
  cases m <;> cases target <;> simp [Closes, Message.kind]

theorem Consistent.get?_applied (consistent : Consistent b) {name : String} {index : Nat}
    (standing : b.active.get? name = some index) (applied : Applied b m after) :
    after.active.get? name = some index ↔ ¬ Closes name m := by
  cases applied with
  | add other =>
      -- The new row stands behind all others, so its index is none of theirs.
      have inside := ((consistent.standing name index).mp standing).in_range
      have apart : b.rows.length ≠ index := by omega
      by_cases same : other = name
      · simp [addRow, Keyed.get?_insert, Closes, same, apart]
      · simp [addRow, Keyed.get?_insert, Closes, same, standing]
  | edit target found =>
      rw [closes_of_target target]
      simp only [get?_edited consistent.sorted]
      split <;> simp_all
  | problems items isFinal => simp [standing, Closes]

/-- A message takes a name away from its row exactly if it adds or finishes a row of that name. -/
theorem Consistent.get?_accept (consistent : Consistent b) {name : String} {index : Nat}
    (standing : b.active.get? name = some index) (m : Message) :
    (b.accept m).board.active.get? name = some index ↔ ¬ Closes name m := by
  rcases accept_cases b m with applied | ⟨⟨other, target, absent⟩, same⟩
  · exact consistent.get?_applied standing applied
  · have apart : other ≠ name := by
      rintro rfl
      rw [standing] at absent
      cases absent
    rw [same, closes_of_target target]
    simp [standing, apart]

def ClosesFrame (name : String) (frame : Json) : Prop :=
  Message.ofFrame frame = .ok (.add name) ∨ ∃ text, Message.ofFrame frame = .ok (.finish name text)

theorem Consistent.get?_dispatch (consistent : Consistent b) {name : String} {index : Nat}
    (standing : b.active.get? name = some index) (frame : Json) :
    (b.dispatch frame).board.active.get? name = some index ↔ ¬ ClosesFrame name frame := by
  rcases dispatch_cases b frame with ⟨m, decoded, arrived⟩ | ⟨⟨e, failed⟩, same⟩
  · rw [arrived, consistent.get?_accept standing m]
    simp [ClosesFrame, Closes, decoded]
  · rw [same]
    simp [ClosesFrame, failed, standing]

theorem active_iff {index : Nat} {row : RowView} (here : b.view.rows[index]? = some row) :
    row.active = true ↔ b.active.get? row.name = some index := by
  rw [getElem?_view_rows] at here
  obtain ⟨entry, _, rfl⟩ := Option.map_eq_some_iff.mp here
  simp [viewRow]

/-- A row that a name stands for is left by it exactly if one of the frames closes the name: up to
the first such frame the name stays, and from then on the row is frozen. -/
theorem Consistent.active_dispatchAll (consistent : Consistent b) {index : Nat}
    {row later : RowView} {frames : List Json} (here : b.view.rows[index]? = some row)
    (active : row.active = true)
    (there : (b.dispatchAll frames).board.view.rows[index]? = some later) :
    later.active = true ↔ ∀ frame ∈ frames, ¬ ClosesFrame row.name frame := by
  induction frames generalizing b row with
  | nil =>
      obtain rfl : row = later := Option.some.inj (here.symm.trans there)
      simp [active]
  | cons frame rest ih =>
      have next := consistent.dispatch frame
      obtain ⟨middle, found, named, _, _⟩ := (consistent.grows_dispatch frame).row index row here
      have first : middle.active = true ↔ ¬ ClosesFrame row.name frame := by
        rw [active_iff found, named]
        exact consistent.get?_dispatch ((active_iff here).mp active) frame
      rw [List.forall_mem_cons, ← first, ← named]
      cases stays : middle.active with
      | true =>
          rw [and_iff_right rfl]
          exact ih next found stays there
      | false =>
          obtain ⟨last, shown, _, _, frozen⟩ := (next.grows_dispatchAll rest).row index middle found
          obtain rfl : last = later := Option.some.inj (shown.symm.trans there)
          simp [frozen stays, stays]

/-- Whatever frames arrive, all rows stay in their places under their names, a row that is done
stays done, and a row that no name stands for stays as it is. A row is left by its name exactly if
a frame adds or finishes a row of that name. A report stays a report, and the headings stay. -/
theorem dispatchAll_only_grows (reachable : Reachable b) (frames : List Json) :
    let after := (b.dispatchAll frames).board
    (∀ (index : Nat) (row : RowView), b.view.rows[index]? = some row →
      ∃ later, after.view.rows[index]? = some later ∧ later.name = row.name ∧
        (row.active = false → later = row) ∧
        (row.indicator = .done → later.indicator = .done) ∧
        (row.active = true → (later.active = false ↔ ∃ frame ∈ frames,
          Message.ofFrame frame = .ok (.add row.name) ∨
            ∃ text, Message.ofFrame frame = .ok (.finish row.name text)))) ∧
      (b.report.isSome = true → after.report.isSome = true) ∧
      after.headings = b.headings := by
  intro after
  have consistent := reachable.consistent
  have grows := consistent.grows_dispatchAll frames
  refine ⟨?_, grows.report, grows.headings⟩
  intro index row here
  obtain ⟨later, there, named, done, frozen⟩ := grows.row index row here
  refine ⟨later, there, named, frozen, done, ?_⟩
  intro active
  have stays := consistent.active_dispatchAll here active there
  rw [← Bool.not_eq_true, stays]
  simp only [not_forall, not_not, exists_prop]
  rfl

/-- A row that was orphaned and one that is done see updates and comments of their name go by, and
the row that the name stands for is finished. -/
theorem dispatchAll_only_grows_reused_name :
    let b := (Board.empty {}).acceptAll
      [.add "paper", .add "paper", .finish "paper" "read", .add "paper"]
    let frames := [(Message.update "paper" ⟨"7"⟩).toFrame, (Message.finish "paper" "again").toFrame,
      (Message.note "paper" "late").toFrame]
    let after := (b.dispatchAll frames).board
    Reachable b ∧ after.view.rows[0]? = b.view.rows[0]? ∧ after.view.rows[1]? = b.view.rows[1]? ∧
      after.view.rows[2]?.map RowView.active = some false := by
  intro b frames after
  have reachable : Reachable b := (Reachable.empty {}).acceptAll _
  have kept := (dispatchAll_only_grows reachable frames).1
  have orphan : b.view.rows[0]? = some ⟨"paper", "0", "", .spinner, false⟩ := by decide
  have done : b.view.rows[1]? = some ⟨"paper", "0", "read", .done, false⟩ := by decide
  have standing : b.view.rows[2]? = some ⟨"paper", "0", "", .spinner, true⟩ := by decide
  obtain ⟨first, atFirst, _, orphaned, _⟩ := kept 0 _ orphan
  obtain ⟨second, atSecond, _, frozen, _⟩ := kept 1 _ done
  obtain ⟨third, atThird, _, _, _, left⟩ := kept 2 _ standing
  have finished : Message.ofFrame (Message.finish "paper" "again").toFrame =
      .ok (.finish "paper" "again") := rfl
  have inactive : third.active = false :=
    (left rfl).mpr ⟨_, List.mem_cons_of_mem _ List.mem_cons_self, Or.inr ⟨"again", finished⟩⟩
  refine ⟨reachable, ?_, ?_, ?_⟩
  · rw [atFirst, orphaned rfl, orphan]
  · rw [atSecond, frozen rfl, done]
  · rw [atThird, Option.map_some, inactive]

end Runboard.Board
