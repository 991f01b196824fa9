import Runboard.Proofs.Board.Consistency

set_option autoImplicit false

namespace Runboard

namespace Keyed

variable {α : Type}

theorem Sorted.length_insert {map : Keyed α} (sorted : map.Sorted) (key : String) (value : α) :
    (map.insert key value).length =
      if (map.get? key).isSome then map.length else map.length + 1 := by
  induction map with
  | nil => rfl
  | cons entry rest ih =>
      obtain ⟨k, v⟩ := entry
      simp only [Keyed.insert, get?_cons]
      split
      · rename_i before
        -- All keys are greater than this one.
        have absent : get? key rest = none := by
          cases found : get? key rest with
          | none => rfl
          | some w =>
              have later := sorted.head_lt (mem_of_get? found)
              exact absurd (String.lt_trans before later) (String.lt_irrefl _)
        simp [absent, Ne.symm (String.ne_of_lt before)]
      · split
        · rename_i same
          simp [same]
        · rename_i apart
          simp only [List.length_cons, ih sorted.tail, Ne.symm apart, ↓reduceIte]
          split <;> rfl

theorem length_erase_of_get? {map : Keyed α} {key : String} {value : α}
    (found : get? key map = some value) : (map.erase key).length + 1 = map.length := by
  induction map with
  | nil => cases found
  | cons entry rest ih =>
      obtain ⟨k, v⟩ := entry
      rw [get?_cons] at found
      simp only [erase]
      split
      · rfl
      · rename_i apart
        simp only [apart, ↓reduceIte] at found
        simp only [List.length_cons, ih found]

end Keyed

/-! What is counted. -/

namespace Log.Entry

/-- The warning about a name that stands for a row and is added again. -/
def isReplacement (e : Entry) : Bool :=
  e.level = .warn && "Progress entry ".toList.isPrefixOf e.text.toList &&
    " added twice, replacing it".toList.isSuffixOf e.text.toList

/-- The warning about something that cannot be handled. -/
def isFailure (e : Entry) : Bool :=
  e.level = .warn && "Failed to handle message: ".toList.isPrefixOf e.text.toList

def isError (e : Entry) : Bool := e.level = .error

end Log.Entry

namespace Message

def addsRow (frame : Json) : Bool :=
  match ofFrame frame with
  | .ok (.add _) => true
  | _ => false

/-- The frame has the tag of a kind and is no message of this kind. -/
def isMalformed (frame : Json) : Bool :=
  match ofFrame frame with
  | .error (.malformed ..) => true
  | _ => false

end Message

namespace Board

/-- The frame finishes a row, and the board can apply it. -/
def finishesRow (b : Board) (frame : Json) : Bool :=
  match Message.ofFrame frame with
  | .ok (.finish name text) => (b.apply (.finish name text)).isOk
  | _ => false

/-- The frame is a message about a row whose name is not active. -/
def missesRow (b : Board) (frame : Json) : Bool :=
  match Message.ofFrame frame with
  | .ok m => m.kind ≠ .add && m.rowName?.any fun name => !b.isActive name
  | .error _ => false

/-- The frames of a run, each with the board that it finds. -/
def turns (b : Board) : List Json → List (Board × Json)
  | [] => []
  | frame :: rest => (b, frame) :: (b.dispatch frame).board.turns rest

/-! The entries of the log. -/

def replacementEntry (name : String) : Log.Entry :=
  logEntry .warn ("Progress entry " ++ Text.quoted name ++ " added twice, replacing it")

@[simp] theorem isReplacement_replacementEntry (name : String) :
    (replacementEntry name).isReplacement = true := by
  simp only [Log.Entry.isReplacement, replacementEntry, logEntry, String.toList_append,
    Bool.and_eq_true, decide_true, true_and, List.isPrefixOf_iff_prefix,
    List.isSuffixOf_iff_suffix]
  refine ⟨?_, List.suffix_append _ _⟩
  rw [List.append_assoc]
  exact List.prefix_append _ _

@[simp] theorem isFailure_replacementEntry (name : String) :
    (replacementEntry name).isFailure = false := by
  simp only [Log.Entry.isFailure, replacementEntry, logEntry, String.toList_append]
  rfl

@[simp] theorem isFailure_failureEntry (reason : String) :
    (failureEntry reason).isFailure = true := by
  simp only [Log.Entry.isFailure, failureEntry, logEntry, String.toList_append, Bool.and_eq_true,
    decide_true, true_and, List.isPrefixOf_iff_prefix]
  exact List.prefix_append _ _

@[simp] theorem isReplacement_failureEntry (reason : String) :
    (failureEntry reason).isReplacement = false := by
  simp only [Log.Entry.isReplacement, failureEntry, logEntry, String.toList_append]
  rfl

@[simp] theorem isError_failureEntry (reason : String) : (failureEntry reason).isError = false :=
  rfl

theorem applyLog_add (b : Board) (name : String) :
    b.applyLog (.add name) = logEntry .debug ("Dispatching " ++ Kind.add.label) ::
      if b.isActive name then [replacementEntry name] else [] := rfl

/-- Of what is logged for a message only a replacement is more than a remark. -/
theorem countP_applyLog (b : Board) (m : Message) :
    (b.applyLog m).countP Log.Entry.isFailure = 0 ∧ (b.applyLog m).countP Log.Entry.isError = 0 ∧
      (m.kind ≠ .add → (b.applyLog m).countP Log.Entry.isReplacement = 0) := by
  cases m with
  | add name =>
      rw [applyLog_add]
      refine ⟨?_, ?_, fun other => absurd rfl other⟩
      · rw [List.countP_cons_of_neg (by decide)]
        split
        · exact List.countP_eq_zero.mpr (by simp)
        · rfl
      · split <;> rfl
  | _ => exact ⟨rfl, rfl, fun _ => rfl⟩

theorem countP_isReplacement_applyLog_add (b : Board) (name : String) :
    (b.applyLog (.add name)).countP Log.Entry.isReplacement =
      if b.isActive name then 1 else 0 := by
  rw [applyLog_add, List.countP_cons_of_neg Bool.false_ne_true]
  split
  · simp
  · rfl

/-! The frames of a run. -/

variable {b after : Board} {m : Message} {frame : Json}

theorem kind_ne_add_of_target {name : String} (target : m.target? = some name) :
    m.kind ≠ .add := by
  cases m <;> cases target <;> simp [Message.kind]

theorem addsRow_of_decoded (decoded : Message.ofFrame frame = .ok m) :
    Message.addsRow frame = decide (m.kind = .add) := by
  cases m <;> simp [Message.addsRow, decoded, Message.kind]

theorem isMalformed_of_decoded (decoded : Message.ofFrame frame = .ok m) :
    Message.isMalformed frame = false := by
  simp [Message.isMalformed, decoded]

theorem finishesRow_of_applied (decoded : Message.ofFrame frame = .ok m)
    (applied : Applied b m after) : b.finishesRow frame = decide (m.kind = .finish) := by
  have success := apply_eq_ok_iff.mpr applied
  cases m <;> simp [finishesRow, decoded, Message.kind, success, Except.isOk, Except.toBool]

theorem finishesRow_of_refused {name : String} (decoded : Message.ofFrame frame = .ok m)
    (refused : b.Refuses m name) : b.finishesRow frame = false := by
  have failure := (apply_eq_error_iff ⟨m.kind, name⟩).mpr ⟨refused, rfl⟩
  cases m <;> simp [finishesRow, decoded, failure, Except.isOk, Except.toBool]

/-- The messages that miss their row are those that are refused. -/
theorem missesRow_iff (decoded : Message.ofFrame frame = .ok m) :
    b.missesRow frame = true ↔ ∃ name, b.Refuses m name := by
  cases m <;>
    simp [missesRow, decoded, Message.kind, Message.rowName?, Refuses, Message.target?, isActive]

theorem missesRow_of_applied (decoded : Message.ofFrame frame = .ok m)
    (applied : Applied b m after) : b.missesRow frame = false := by
  rw [Bool.eq_false_iff]
  intro misses
  obtain ⟨name, refused⟩ := (missesRow_iff decoded).mp misses
  have failure := (apply_eq_error_iff ⟨m.kind, name⟩).mpr ⟨refused, rfl⟩
  rw [apply_eq_ok_iff.mpr applied] at failure
  cases failure

theorem map_snd_turns (b : Board) (frames : List Json) :
    (b.turns frames).map Prod.snd = frames := by
  induction frames generalizing b with
  | nil => rfl
  | cons frame rest ih => rw [turns, List.map_cons, ih]

/-! One row is finished. -/

theorem countP_modify {α : Type} (p : α → Bool) (change : α → α) {items : List α} {index : Nat}
    {item : α} (here : items[index]? = some item) :
    (items.modify index change).countP p + (p item).toNat =
      items.countP p + (p (change item)).toNat := by
  induction items generalizing index with
  | nil => cases here
  | cons first items ih =>
      cases index with
      | zero =>
          obtain rfl : first = item := Option.some.inj here
          simp only [List.modify_zero_cons, List.countP_cons]
          cases p first <;> cases p (change first) <;> simp
      | succ index =>
          have later := ih (List.getElem?_cons_succ.symm.trans here)
          simp only [List.modify_succ_cons, List.countP_cons]
          omega

/-- A message that finishes a row makes one more row done, since names stand for rows that spin. -/
theorem Consistent.countP_isFinished_modify (consistent : Consistent b) {name : String}
    {index : Nat} (found : b.active.get? name = some index) (m : Message) :
    (b.rows.modify index m.edit).countP Row.isFinished =
      b.rows.countP Row.isFinished + if m.kind = .finish then 1 else 0 := by
  obtain ⟨row, here, _, spinning⟩ := ((consistent.standing name index).mp found).present
  have counted := countP_modify Row.isFinished m.edit here
  have before : row.isFinished = false := by simp [Row.isFinished, spinning]
  have later : (m.edit row).isFinished = decide (m.kind = .finish) := by
    by_cases finish : m.kind = .finish <;>
      simp [Row.isFinished, Message.indicator_edit, finish, spinning]
  rw [before, later] at counted
  by_cases finish : m.kind = .finish <;> simpa [finish] using counted

theorem length_active_edited {active : Keyed Nat} {name : String} {index : Nat}
    (found : active.get? name = some index) (m : Message) :
    (if m.kind = .finish then active.erase name else active).length +
      (if m.kind = .finish then 1 else 0) = active.length := by
  by_cases finish : m.kind = .finish
  · simp only [finish, ↓reduceIte]
    exact Keyed.length_erase_of_get? found
  · simp only [finish, ↓reduceIte, Nat.add_zero]

/-- What a run has made of a board, counted in its frames and in its log. -/
structure Accounts (b : Board) (turns : List (Board × Json)) (run : Step) : Prop where
  rows : run.board.rows.length =
    b.rows.length + turns.countP fun turn => Message.addsRow turn.2
  done : run.board.rows.countP Row.isFinished =
    b.rows.countP Row.isFinished + turns.countP fun turn => turn.1.finishesRow turn.2
  /-- Of all names that were added, those are still active that were not finished or added again. -/
  active : run.board.active.length + (turns.countP fun turn => turn.1.finishesRow turn.2) +
      run.log.countP Log.Entry.isReplacement =
    b.active.length + turns.countP fun turn => Message.addsRow turn.2
  errors : run.log.countP Log.Entry.isError = run.alerts.length
  failures : run.log.countP Log.Entry.isFailure =
    (turns.countP fun turn => Message.isMalformed turn.2) +
      turns.countP fun turn => turn.1.missesRow turn.2

theorem Accounts.append {turns later : List (Board × Json)} {first second : Step}
    (early : Accounts b turns first) (late : Accounts first.board later second) :
    Accounts b (turns ++ later)
      { board := second.board
        log := first.log ++ second.log
        alerts := first.alerts ++ second.alerts } := by
  obtain ⟨rows, done, active, errors, failures⟩ := early
  obtain ⟨rows', done', active', errors', failures'⟩ := late
  constructor <;> simp only [List.countP_append, List.length_append] <;> omega

theorem Consistent.accounts_applied (consistent : Consistent b)
    (decoded : Message.ofFrame frame = .ok m) (applied : Applied b m after) :
    Accounts b [(b, frame)] { board := after, log := b.applyLog m } := by
  obtain ⟨noFailure, noError, noReplacement⟩ := countP_applyLog b m
  have adds := addsRow_of_decoded decoded
  have finishes := finishesRow_of_applied decoded applied
  have formed := isMalformed_of_decoded decoded
  have meets := missesRow_of_applied decoded applied
  have failures : (b.applyLog m).countP Log.Entry.isFailure =
      ([(b, frame)].countP fun turn => Message.isMalformed turn.2) +
        [(b, frame)].countP fun turn => turn.1.missesRow turn.2 := by
    simp [noFailure, formed, meets]
  cases applied with
  | add name =>
      have counted := countP_isReplacement_applyLog_add b name
      have inserted := consistent.sorted.length_insert name b.rows.length
      refine ⟨?_, ?_, ?_, noError, failures⟩
      · simp [addRow, adds, Message.kind]
      · simp [addRow, finishes, Message.kind, Row.create, Row.isFinished]
      · simp only [addRow, inserted, counted, List.countP_singleton, adds, finishes, Message.kind]
        by_cases standing : b.isActive name = true
        · have found : (b.active.get? name).isSome = true := standing
          simp [standing, found]
        · have absent : ¬ (b.active.get? name).isSome = true := standing
          simp [standing, absent]
  | edit target found =>
      have finished := consistent.countP_isFinished_modify found m
      have left := length_active_edited found m
      have other := kind_ne_add_of_target target
      refine ⟨?_, ?_, ?_, noError, failures⟩
      · simp [adds, other]
      · simp only [finished, List.countP_singleton, finishes, decide_eq_true_eq]
      · simp only [List.countP_singleton, adds, finishes, decide_eq_true_eq, noReplacement other,
          other, ↓reduceIte, Nat.add_zero]
        exact left
  | problems items isFinal =>
      have quiet := noReplacement (by simp [Message.kind])
      refine ⟨?_, ?_, ?_, noError, failures⟩
      · simp [adds, Message.kind]
      · simp [finishes, Message.kind]
      · simp [adds, finishes, Message.kind, quiet]

theorem Consistent.accounts_dispatch (consistent : Consistent b) (frame : Json) :
    Accounts b [(b, frame)] (b.dispatch frame) := by
  have dispatched := dispatched_dispatch b frame
  generalize b.dispatch frame = run at dispatched
  cases dispatched with
  | applied decoded applied => exact consistent.accounts_applied decoded applied
  | @refused m e decoded refused =>
      obtain ⟨noFailure, noError, noReplacement⟩ := countP_applyLog b m
      have other := kind_ne_add_of_target refused.1
      have adds := addsRow_of_decoded decoded
      have finishes := finishesRow_of_refused decoded refused
      have formed := isMalformed_of_decoded decoded
      have misses : b.missesRow frame = true := (missesRow_iff decoded).mpr ⟨e.name, refused⟩
      constructor <;>
        simp [adds, other, finishes, formed, misses, noFailure, noError, noReplacement other]
  | malformed decoded =>
      constructor <;>
        simp [Message.addsRow, finishesRow, Message.isMalformed, missesRow, decoded]
  | @unrecognized e text decoded shown =>
      have unknown : Message.isMalformed frame = false := by
        cases e <;> cases shown <;> simp [Message.isMalformed, decoded]
      constructor <;>
        simp [Message.addsRow, finishesRow, unknown, missesRow, decoded, logEntry,
          Log.Entry.isReplacement, Log.Entry.isFailure, Log.Entry.isError]

theorem Consistent.accounts_dispatchAll (consistent : Consistent b) (frames : List Json) :
    Accounts b (b.turns frames) (b.dispatchAll frames) := by
  induction frames generalizing b with
  | nil => constructor <;> rfl
  | cons frame rest ih =>
      exact (consistent.accounts_dispatch frame).append (ih (consistent.dispatch frame))

/-! What becomes of a row. -/

/-- A row that a name stands for still spins, so every row is one of three: active, done, or
spinning without a name. -/
theorem length_eq_active_add_done_add_orphaned {rows : List RowView}
    (spinning : ∀ row ∈ rows, row.active = true → row.indicator = .spinner) :
    rows.length = rows.countP RowView.active + rows.countP (fun row => row.indicator = .done) +
      rows.countP fun row => row.indicator = .spinner && !row.active := by
  induction rows with
  | nil => rfl
  | cons row rows ih =>
      obtain ⟨here, later⟩ := List.forall_mem_cons.mp spinning
      have counted := ih later
      simp only [List.length_cons, List.countP_cons]
      cases active : row.active with
      | true => simp [here active]; omega
      | false => cases row.indicator <;> simp <;> omega

theorem Consistent.length_view_rows (consistent : Consistent b) :
    b.view.rows.length = b.view.activeCount +
      b.view.rows.countP (fun row => row.indicator = .done) +
      b.view.rows.countP fun row => row.indicator = .spinner && !row.active := by
  rw [consistent.activeCount_eq, ← List.countP_eq_length_filter]
  apply length_eq_active_add_done_add_orphaned
  intro row member active
  obtain ⟨index, here⟩ := List.mem_iff_getElem?.mp member
  exact ((consistent.flagged_iff here).mp active).1

theorem countP_done_view_rows (b : Board) :
    b.view.rows.countP (fun row => row.indicator = .done) = b.rows.countP Row.isFinished := by
  have fromRows : b.rows.countP Row.isFinished =
      (b.rows.zipIdx.map Prod.fst).countP Row.isFinished := by
    rw [List.zipIdx_map_fst]
  rw [fromRows, List.countP_map, view, List.countP_map]
  rfl

/-- Whatever frames arrive at a new board, its rows are as many as the frames that add one. Those
that are done are as many as the frames that finished one, those that spin and are not active as
many as the warnings about a name added twice, and the others are active. There is an error in the
log for each alert, and a warning for each malformed frame and each message about a row whose name
is not active. -/
theorem rows_accounted_for (headings : Headings) (frames : List Json) :
    let run := (empty headings).dispatchAll frames
    let turns := (empty headings).turns frames
    let done := run.board.view.rows.countP fun row => row.indicator = .done
    let orphaned := run.board.view.rows.countP fun row => row.indicator = .spinner && !row.active
    run.board.view.rows.length = frames.countP Message.addsRow ∧
      done = turns.countP (fun turn => turn.1.finishesRow turn.2) ∧
      orphaned = run.log.countP Log.Entry.isReplacement ∧
      run.board.view.rows.length =
        run.board.view.activeCount + done + run.log.countP Log.Entry.isReplacement ∧
      run.log.countP Log.Entry.isError = run.alerts.length ∧
      run.log.countP Log.Entry.isFailure =
        frames.countP Message.isMalformed +
          turns.countP fun turn => turn.1.missesRow turn.2 := by
  intro run turns done orphaned
  have consistent : Consistent run.board := (consistent_empty headings).dispatchAll frames
  have accounts : Accounts (empty headings) turns run :=
    (consistent_empty headings).accounts_dispatchAll frames
  have counted (p : Json → Bool) : frames.countP p = turns.countP fun turn => p turn.2 := by
    rw [← map_snd_turns (empty headings) frames, List.countP_map]
    rfl
  have length : run.board.view.rows.length = run.board.rows.length := by simp [view]
  have finished : done = run.board.rows.countP Row.isFinished := countP_done_view_rows run.board
  have fates : run.board.view.rows.length = run.board.view.activeCount + done + orphaned :=
    consistent.length_view_rows
  obtain ⟨rows, dones, active, errors, failures⟩ := accounts
  have activeCount : run.board.view.activeCount = run.board.active.length := rfl
  have noRows : (empty headings).rows.length = 0 := rfl
  have noneDone : (empty headings).rows.countP Row.isFinished = 0 := rfl
  have noneActive : (empty headings).active.length = 0 := rfl
  rw [counted Message.addsRow, counted Message.isMalformed]
  exact ⟨by omega, by omega, by omega, by omega, errors, failures⟩

end Board

end Runboard
