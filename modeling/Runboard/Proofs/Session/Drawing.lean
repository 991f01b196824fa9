import Runboard.Proofs.Board.Isolation
import Runboard.Proofs.Display.Writing
import Runboard.Proofs.Session.Sequence

set_option autoImplicit false

namespace Runboard

namespace Board

/-- The board after a frame that is a message and can be applied, its change noted. -/
def applyFrame? (b : Board) (frame : Json) : Option Board :=
  match Message.ofFrame frame with
  | .ok m => (b.apply m).toOption.map fun after => after.takeDirty.2
  | .error _ => none

/-- The boards right after each frame that is applied. -/
def changes (b : Board) : List Json → List Board
  | [] => []
  | frame :: rest =>
    match b.applyFrame? frame with
    | some after => after :: after.changes rest
    | none => b.changes rest

def settled (b : Board) (frames : List Json) : Board := (b.changes frames).getLastD b

def block (b : Board) : List String := Display.viewLines b.view

/-- A block for each frame that is applied, unless the monitor is quiet. -/
def shown (quiet : Bool) (b : Board) (frames : List Json) : List (List String) :=
  if quiet then [] else (b.changes frames).map block

/-- The blocks of a session that starts with the board, if so many blocks have been written before.
There is a last one if the monitor is quiet or would have written none at all. -/
def due (quiet : Bool) (count : Nat) (b : Board) (frames : List Json) : List (List String) :=
  b.shown quiet frames ++
    if quiet || count + (b.shown quiet frames).length = 0 then [(b.settled frames).block] else []

variable {b after : Board} {frame : Json}

/-- A frame that is applied sets the flag. -/
theorem takeDirty_dispatch (applied : b.applyFrame? frame = some after) :
    (b.dispatch frame).board.takeDirty = (true, after) := by
  unfold applyFrame? at applied
  cases decoded : Message.ofFrame frame with
  | error e => simp [decoded] at applied
  | ok m =>
      cases outcome : b.apply m with
      | error e => simp [decoded, outcome, Except.toOption] at applied
      | ok changed =>
          have arrived : (b.dispatch frame).board = changed := by
            simp only [dispatch, decoded, accept, outcome]
          have flagged : changed.dirty = true := (apply_eq_ok_iff.mp outcome).dirty_eq
          simp only [decoded, outcome, Except.toOption, Option.map_some, Option.some.injEq]
            at applied
          rw [arrived, ← applied, takeDirty, flagged]

theorem takeDirty_of_clean (clean : b.dirty = false) : b.takeDirty = (false, b) := by
  cases b
  cases clean
  rfl

theorem isSome_applyFrame? : (b.applyFrame? frame).isSome = b.applies frame := by
  unfold applyFrame? applies
  cases Message.ofFrame frame with
  | error e => rfl
  | ok m => cases outcome : b.apply m <;> simp only [outcome] <;> rfl

/-- Any other frame leaves the flag and everything else alone. -/
theorem dispatch_of_not_applied (ignored : b.applyFrame? frame = none) :
    (b.dispatch frame).board = b := by
  apply board_dispatch_of_not_applies
  rw [← isSome_applyFrame?, ignored]
  rfl

@[simp] theorem changes_nil (b : Board) : b.changes [] = [] := rfl

theorem changes_cons (b : Board) (frame : Json) (rest : List Json) :
    b.changes (frame :: rest) =
      (b.applyFrame? frame).toList ++ ((b.applyFrame? frame).getD b).changes rest := by
  rw [changes]
  cases b.applyFrame? frame <;> rfl

theorem settled_cons (b : Board) (frame : Json) (rest : List Json) :
    b.settled (frame :: rest) = ((b.applyFrame? frame).getD b).settled rest := by
  rw [settled, changes_cons]
  cases b.applyFrame? frame with
  | none => rfl
  | some after => exact List.getLastD_cons

@[simp] theorem shown_nil (quiet : Bool) (b : Board) : b.shown quiet [] = [] := by
  unfold shown
  split <;> rfl

theorem shown_singleton (quiet : Bool) (b : Board) (frame : Json) :
    b.shown quiet [frame] =
      if quiet then [] else (b.applyFrame? frame).toList.map block := by
  rw [shown, changes_cons, changes_nil, List.append_nil]

theorem shown_cons (quiet : Bool) (b : Board) (frame : Json) (rest : List Json) :
    b.shown quiet (frame :: rest) =
      b.shown quiet [frame] ++ ((b.applyFrame? frame).getD b).shown quiet rest := by
  rw [shown_singleton, shown, shown, changes_cons, List.map_append]
  cases quiet <;> rfl

/-- Every block shows a board. -/
theorem exists_block_of_mem_due {quiet : Bool} {count : Nat} {frames : List Json}
    {lines : List String} (member : lines ∈ b.due quiet count frames) :
    ∃ board : Board, lines = board.block := by
  rcases List.mem_append.mp member with early | last
  · unfold shown at early
    split at early
    · cases early
    · obtain ⟨changed, _, same⟩ := List.mem_map.mp early
      exact ⟨changed, same.symm⟩
  · split at last
    · exact ⟨_, List.mem_singleton.mp last⟩
    · cases last

/-- Nothing is due exactly if the monitor has shown something before and there is no change that
it would show. -/
theorem due_eq_nil_iff {quiet : Bool} {count : Nat} {frames : List Json} :
    b.due quiet count frames = [] ↔ quiet = false ∧ count ≠ 0 ∧ b.changes frames = [] := by
  unfold due shown
  cases quiet with
  | true => simp
  | false =>
      by_cases unchanged : b.changes frames = [] <;> simp [unchanged]

theorem settled_of_unchanged {frames : List Json} (unchanged : b.changes frames = []) :
    b.settled frames = b := by
  rw [settled, unchanged]
  rfl

theorem getLast?_map_changes {frames : List Json} (changed : b.changes frames ≠ []) :
    ((b.changes frames).map block).getLast? = some (b.settled frames).block := by
  have last := List.getLast?_eq_some_getLast changed
  rw [List.getLast?_map, settled, List.getLastD_eq_getLast?, last]
  rfl

/-- The last block that is due shows the board at the end. -/
theorem getLast?_due {quiet : Bool} {count : Nat} {frames : List Json}
    (some_due : b.due quiet count frames ≠ []) :
    (b.due quiet count frames).getLast? = some (b.settled frames).block := by
  unfold due at some_due ⊢
  split
  · exact List.getLast?_concat
  · rename_i undue
    rw [if_neg undue, List.append_nil] at some_due
    rw [List.append_nil]
    unfold shown at some_due ⊢
    split
    · rename_i silent
      rw [if_pos silent] at some_due
      exact absurd rfl some_due
    · rename_i loud
      rw [if_neg loud] at some_due
      apply getLast?_map_changes
      intro unchanged
      rw [unchanged] at some_due
      exact some_due rfl

end Board

namespace Monitor

variable {m between after : Monitor} {quiet : Bool} {result : Except OutputError Unit}

/-- The monitor has written blocks, all of them or up to the one that failed. Nothing else has
changed but the board. -/
structure Draws (m : Monitor) (blocks : List (List String)) (result : Except OutputError Unit)
    (after : Monitor) : Prop where
  output_eq : m.output.writeAll (Display.separated m.blocks blocks) = (after.output, result)
  counted : result = .ok () → after.blocks = m.blocks + blocks.length
  headings_eq : after.headings = m.headings
  quiet_eq : after.quiet = m.quiet
  started_eq : after.started = m.started

theorem Draws.nothing (m : Monitor) (board : Board) : m.Draws [] (.ok ()) { m with board } :=
  ⟨rfl, fun _ => rfl, rfl, rfl, rfl⟩

theorem Draws.trans {first second : List (List String)} (before : m.Draws first (.ok ()) between)
    (behind : between.Draws second result after) : m.Draws (first ++ second) result after := by
  have count := before.counted rfl
  refine ⟨?_, ?_, behind.headings_eq.trans before.headings_eq,
    behind.quiet_eq.trans before.quiet_eq, behind.started_eq.trans before.started_eq⟩
  · rw [Display.separated_append, Output.writeAll_append_of_ok before.output_eq, ← count]
    exact behind.output_eq
  · intro succeeded
    rw [behind.counted succeeded, count, List.length_append, Nat.add_assoc]

theorem Draws.stop {first : List (List String)} {e : OutputError}
    (stopped : m.Draws first (.error e) after) (second : List (List String)) :
    m.Draws (first ++ second) (.error e) after := by
  refine ⟨?_, ?_, stopped.headings_eq, stopped.quiet_eq, stopped.started_eq⟩
  · rw [Display.separated_append]
    exact Output.writeAll_append_of_error stopped.output_eq _
  · intro succeeded
    cases succeeded

/-- Where the board stood before does not matter. -/
theorem Draws.of_board {board : Board} {blocks : List (List String)}
    (draws : { m with board }.Draws blocks result after) : m.Draws blocks result after :=
  ⟨draws.output_eq, draws.counted, draws.headings_eq, draws.quiet_eq, draws.started_eq⟩

/-- Where no block was to be written, only the board can have changed. -/
theorem Draws.eq_of_nil (draws : m.Draws [] (.ok ()) after) (board : after.board = m.board) :
    after = m := by
  have output : after.output = m.output := (congrArg Prod.fst draws.output_eq).symm
  have blocks : after.blocks = m.blocks := draws.counted rfl
  obtain ⟨_, _, headings, quiet, started⟩ := draws
  cases after
  cases m
  simp only [Monitor.mk.injEq]
  exact ⟨headings, quiet, board, output, started, blocks⟩

theorem draws_writeBlock (m : Monitor) :
    m.Draws [m.board.block] m.writeBlock.1 m.writeBlock.2 := by
  have lines : Display.separated m.blocks [m.board.block] = [m.blockLines] := rfl
  unfold writeBlock
  split
  · rename_i output written
    refine ⟨?_, fun _ => rfl, rfl, rfl, rfl⟩
    rw [lines, Output.writeAll, written]
    rfl
  · rename_i output e failed
    refine ⟨?_, ?_, rfl, rfl, rfl⟩
    · rw [lines, Output.writeAll, failed]
    · intro succeeded
      cases succeeded

theorem board_writeBlock (m : Monitor) : m.writeBlock.2.board = m.board := by
  unfold writeBlock
  split <;> rfl

/-- A monitor between two sessions. The change of a block that was refused is not noted. -/
structure Idle (m : Monitor) (quiet : Bool) : Prop where
  started : m.started = true
  quiet_eq : m.quiet = quiet
  clean : m.board.dirty = false

theorem Idle.of_draws (idle : m.Idle quiet) {blocks : List (List String)}
    (draws : m.Draws blocks result after) (clean : after.board.dirty = false) :
    after.Idle quiet :=
  ⟨draws.started_eq.trans idle.started, draws.quiet_eq.trans idle.quiet_eq, clean⟩

/-- What `draw` does depends on the flag and on whether the monitor is quiet. -/
theorem draw_of_takeDirty {changed : Bool} {board : Board}
    (taken : m.board.takeDirty = (changed, board)) :
    m.draw =
      if changed && !m.quiet then { m with board }.writeBlock else (.ok (), { m with board }) := by
  simp only [draw, taken]

/-- The flag is set exactly if the frame is applied, so a block that is not written is one that
would repeat the last. Whether it can be written makes no difference to the board. -/
theorem draws_showFrame (idle : m.Idle quiet) (frame : Json) :
    m.Draws (m.board.shown quiet [frame]) (m.showFrame frame).result
        (m.showFrame frame).monitor ∧
      (m.showFrame frame).monitor.board = (m.board.applyFrame? frame).getD m.board ∧
      (m.showFrame frame).monitor.board.dirty = false := by
  rw [Board.shown_singleton]
  simp only [showFrame]
  cases applied : m.board.applyFrame? frame with
  | none =>
      rw [Board.dispatch_of_not_applied applied,
        draw_of_takeDirty (Board.takeDirty_of_clean idle.clean)]
      refine ⟨?_, rfl, idle.clean⟩
      simpa using Draws.nothing m m.board
  | some changed =>
      have taken := Board.takeDirty_dispatch applied
      have clean : changed.dirty = false := (congrArg (·.2.dirty) taken).symm
      rw [draw_of_takeDirty (m := { m with board := (m.board.dispatch frame).board }) taken]
      cases quiet with
      | true =>
          have undue : ¬(true && !m.quiet) = true := by simp [idle.quiet_eq]
          rw [if_neg undue]
          exact ⟨Draws.nothing m changed, rfl, clean⟩
      | false =>
          have due : (true && !m.quiet) = true := by simp [idle.quiet_eq]
          have board := board_writeBlock { m with board := changed }
          rw [if_pos due]
          exact ⟨(draws_writeBlock { m with board := changed }).of_board, board,
            (congrArg Board.dirty board).trans clean⟩

/-- The frames of a session, up to the first that cannot be shown. -/
theorem Idle.shows (idle : m.Idle quiet) {frames : List Json} {alerts : List String}
    (shows : m.Shows frames result after alerts) :
    m.Draws (m.board.shown quiet frames) result after ∧ after.board.dirty = false ∧
      (result = .ok () → after.board = m.board.settled frames ∧ alerts = alertsOf frames) := by
  induction frames generalizing m alerts with
  | nil =>
      obtain ⟨rfl, rfl, rfl⟩ := shows
      rw [Board.shown_nil]
      exact ⟨Draws.nothing m m.board, idle.clean, fun _ => ⟨rfl, rfl⟩⟩
  | cons frame frames ih =>
      obtain ⟨draws, board, clean⟩ := draws_showFrame idle frame
      rw [Board.shown_cons, ← board]
      cases step : (m.showFrame frame).result with
      | error e =>
          rw [step] at draws
          obtain ⟨rfl, rfl, _⟩ := (shows_cons_of_error step _ _ _).mp shows
          refine ⟨draws.stop _, clean, ?_⟩
          intro succeeded
          cases succeeded
      | ok _ =>
          rw [step] at draws
          obtain ⟨later, rest, rfl⟩ := (shows_cons_of_ok step _ _ _).mp shows
          obtain ⟨further, last, reached⟩ := ih (idle.of_draws draws clean) rest
          refine ⟨draws.trans further, last, ?_⟩
          intro succeeded
          obtain ⟨settled, raised⟩ := reached succeeded
          refine ⟨?_, ?_⟩
          · rw [settled, board, Board.settled_cons]
          · rw [raised, alertsOf_cons, ← Board.alerts_dispatch m.board]
            rfl

theorem Idle.drawLast (idle : m.Idle quiet) :
    m.Draws (if quiet || m.blocks = 0 then [m.board.block] else []) m.drawLast.1 m.drawLast.2 ∧
      m.drawLast.2.board = m.board := by
  unfold Monitor.drawLast
  rw [idle.quiet_eq]
  split
  · exact ⟨draws_writeBlock m, board_writeBlock m⟩
  · exact ⟨Draws.nothing m m.board, rfl⟩

theorem start_of_started (started : m.started = true) : m.start.monitor = m := by
  simp only [start, started, ↓reduceIte]

theorem result_start (m : Monitor) : m.start.result = !m.started := by
  unfold start
  cases m.started <;> rfl

theorem output_start (m : Monitor) : m.start.monitor.output = m.output := by
  unfold start
  split <;> rfl

/-- The end of a session: the last block, and then the outcome of the run. -/
theorem conclude_eq (m : Monitor) (url : String) (outcome : Except RunError Unit) :
    (m.conclude url outcome).monitor = m.drawLast.2 ∧ (m.conclude url outcome).alerts = [] ∧
      (m.conclude url outcome).result =
        (m.drawLast.1.mapError SessionError.output).bind fun _ =>
          (outcome.mapError (.run url)).map fun _ => m.drawLast.2.board.view := by
  unfold conclude
  obtain ⟨written, last⟩ := m.drawLast
  cases written <;> cases outcome <;> exact ⟨rfl, rfl, rfl⟩

/-- A session from a board: the blocks that are due were written, all of them or up to the one
that failed. -/
structure Held (m : Monitor) (quiet : Bool) (task : Task) (url : String)
    (written : Except OutputError Unit) : Prop where
  draws : m.start.monitor.Draws
    (m.start.monitor.board.due quiet m.start.monitor.blocks task.frames) written
    (m.session task url).monitor
  clean : (m.session task url).monitor.board.dirty = false
  result_eq : (m.session task url).result =
    (written.mapError SessionError.output).bind fun _ =>
      (task.ending.mapError (.run url)).map fun _ => (m.session task url).monitor.board.view
  settled : written = .ok () →
    (m.session task url).monitor.board = m.start.monitor.board.settled task.frames ∧
      (m.session task url).alerts = alertsOf task.frames

theorem Idle.session (idle : m.start.monitor.Idle quiet) (task : Task) (url : String) :
    ∃ written, m.Held quiet task url written := by
  have shows : m.start.monitor.Shows task.frames
    (m.start.monitor.showFrames task.frames).result _ _ := ⟨rfl, rfl, rfl⟩
  obtain ⟨draws, clean, reached⟩ := idle.shows shows
  cases outcome : (m.start.monitor.showFrames task.frames).result with
  | error e =>
      rw [outcome] at draws shows
      obtain ⟨result, monitor, _⟩ := session_of_stopped url shows
      refine ⟨.error e, ?_, ?_, result, ?_⟩
      · rw [monitor]
        exact draws.stop _
      · rw [monitor]
        exact clean
      · intro succeeded
        cases succeeded
  | ok _ =>
      rw [outcome] at draws shows
      obtain ⟨settled, raised⟩ := reached outcome
      obtain ⟨result, monitor, alerts⟩ := session_of_shown url shows
      obtain ⟨last, silent, concluded⟩ := conclude_eq
        (m.start.monitor.showFrames task.frames).monitor url task.ending
      obtain ⟨drawn, board⟩ := (idle.of_draws draws clean).drawLast
      have whole := draws.trans drawn
      rw [draws.counted rfl, settled] at whole
      rw [last] at monitor
      rw [← monitor] at whole board concluded
      refine ⟨_, whole, ?_, result.trans concluded, fun _ => ⟨board.trans settled, ?_⟩⟩
      · rw [board]
        exact clean
      · rw [alerts, silent, List.append_nil, raised]

namespace Held

variable {task : Task} {url : String}

theorem idle {written : Except OutputError Unit} (held : m.Held quiet task url written)
    (before : m.start.monitor.Idle quiet) : (m.session task url).monitor.Idle quiet :=
  before.of_draws held.draws held.clean

/-- An output that grants everything fails no session, and goes on granting. -/
theorem of_grantsAll {written : Except OutputError Unit} (held : m.Held quiet task url written)
    (grants : m.output.grantsAll = true) :
    written = .ok () ∧ (m.session task url).monitor.output.grantsAll = true := by
  rw [← output_start] at grants
  obtain ⟨output, taken, granting⟩ := Output.exists_writeAll grants (Display.separated
    m.start.monitor.blocks (m.start.monitor.board.due quiet m.start.monitor.blocks task.frames))
  obtain ⟨same, succeeded⟩ := Prod.mk.inj (held.draws.output_eq.symm.trans taken)
  rw [same]
  exact ⟨succeeded, granting⟩

end Held

end Monitor

end Runboard
