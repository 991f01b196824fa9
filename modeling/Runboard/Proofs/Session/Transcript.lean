import Runboard.Proofs.Session.Drawing

set_option autoImplicit false

/-!
A transcript is kept by someone who knows the frames of every session and nothing of flags and
counters: the board after all frames so far, the blocks that are due and the alerts. A monitor
whose output takes every line writes exactly the blocks of its transcript, whatever the sessions
and however their runs end.
-/

namespace Runboard

/-- The board, the blocks written and the alerts raised so far. -/
structure Transcript where
  board : Board
  blocks : List (List String) := []
  alerts : List String := []

inductive Call
  | start
  | session (task : Task) (url : String)

def Call.isSession : Call → Bool
  | .start => false
  | .session .. => true

namespace Transcript

/-- A block for each frame that is applied, unless the monitor is quiet. -/
def advance (quiet : Bool) (t : Transcript) (frames : List Json) : Transcript :=
  { board := t.board.settled frames
    blocks := if quiet then t.blocks else t.blocks ++ (t.board.changes frames).map Board.block
    alerts := t.alerts ++ alertsOf frames }

/-- A last block if the monitor is quiet or there is none at all. -/
def close (quiet : Bool) (t : Transcript) : Transcript :=
  if quiet || t.blocks.isEmpty then { t with blocks := t.blocks ++ [t.board.block] } else t

/-- What a call adds. How the run of a session ends makes no difference. -/
def call (quiet : Bool) (t : Transcript) : Call → Transcript
  | .start => t
  | .session task _ => (t.advance quiet task.frames).close quiet

def ofCalls (headings : Headings) (quiet : Bool) (calls : List Call) : Transcript :=
  calls.foldl (call quiet) { board := .empty headings }

end Transcript

structure Usage where
  monitor : Monitor
  alerts : List String := []

namespace Usage

def call (u : Usage) : Call → Usage
  | .start => { u with monitor := u.monitor.start.monitor }
  | .session task url =>
    let done := u.monitor.session task url
    { monitor := done.monitor, alerts := u.alerts ++ done.alerts }

/-- Calls to a new monitor with an output that never refuses a line. -/
def ofCalls (headings : Headings) (quiet : Bool) (calls : List Call) : Usage :=
  calls.foldl call { monitor := { headings, quiet } }

end Usage

namespace Transcript

variable {quiet : Bool} {t : Transcript}

theorem board_session (quiet : Bool) (t : Transcript) (task : Task) (url : String) :
    (t.call quiet (.session task url)).board = t.board.settled task.frames := by
  rw [call, close]
  split <;> rfl

theorem alerts_session (quiet : Bool) (t : Transcript) (task : Task) (url : String) :
    (t.call quiet (.session task url)).alerts = t.alerts ++ alertsOf task.frames := by
  rw [call, close]
  split <;> rfl

/-- A session adds the blocks that are due. -/
theorem blocks_session (quiet : Bool) (t : Transcript) (task : Task) (url : String) :
    (t.call quiet (.session task url)).blocks =
      t.blocks ++ t.board.due quiet t.blocks.length task.frames := by
  have advanced : (t.advance quiet task.frames).blocks =
      t.blocks ++ t.board.shown quiet task.frames := by
    unfold advance Board.shown
    cases quiet <;> simp
  have empty : (t.advance quiet task.frames).blocks.isEmpty =
      decide (t.blocks.length + (t.board.shown quiet task.frames).length = 0) := by
    rw [advanced, ← List.length_append, Bool.eq_iff_iff, List.isEmpty_iff_length_eq_zero,
      decide_eq_true_iff]
  rw [Board.due, ← List.append_assoc, ← advanced, ← empty, call, close]
  split
  · rfl
  · exact (List.append_nil _).symm

theorem ofCalls_concat (headings : Headings) (quiet : Bool) (calls : List Call) (last : Call) :
    ofCalls headings quiet (calls ++ [last]) = (ofCalls headings quiet calls).call quiet last := by
  rw [ofCalls, List.foldl_append]
  rfl

/-- Once there was a session there is a last block, and it shows the board. -/
theorem getLast?_blocks (headings : Headings) (quiet : Bool) (calls : List Call) :
    (ofCalls headings quiet calls).blocks.getLast? =
      if calls.any Call.isSession then some (ofCalls headings quiet calls).board.block
      else none := by
  induction calls using List.reverseRecOn with
  | nil => rfl
  | append_singleton calls last ih =>
      rw [ofCalls_concat]
      cases last with
      | start => simpa [call, Call.isSession] using ih
      | session task url =>
          have some_session : (calls ++ [Call.session task url]).any Call.isSession = true := by
            simp [Call.isSession]
          rw [blocks_session, board_session, if_pos some_session, List.getLast?_append]
          by_cases undue : (ofCalls headings quiet calls).board.due quiet
              (ofCalls headings quiet calls).blocks.length task.frames = []
          · -- Then there was a block before, and it shows the board as it still is.
            obtain ⟨_, written, unchanged⟩ := Board.due_eq_nil_iff.mp undue
            rw [undue, Board.settled_of_unchanged unchanged, List.getLast?_nil, Option.none_or, ih,
              if_pos]
            by_contra none_before
            rw [if_neg none_before, List.getLast?_eq_none_iff] at ih
            exact written (congrArg List.length ih)
          · rw [Board.getLast?_due undue, Option.some_or]

end Transcript

namespace Monitor

variable {m : Monitor} {quiet : Bool} {t : Transcript} {task : Task} {url : String}

/-- A monitor stands where the transcript says. -/
structure Follows (m : Monitor) (quiet : Bool) (t : Transcript) : Prop where
  idle : m.Idle quiet
  written_eq : m.output.written = [Display.separator].intercalate t.blocks
  blocks_eq : m.blocks = t.blocks.length
  board_eq : m.board = t.board

theorem Follows.session (follows : m.start.monitor.Follows quiet t)
    (held : m.Held quiet task url (.ok ())) :
    (m.session task url).monitor.Follows quiet (t.call quiet (.session task url)) := by
  obtain ⟨settled, _⟩ := held.settled rfl
  have draws := held.draws
  rw [follows.board_eq, follows.blocks_eq] at draws
  refine ⟨held.idle follows.idle, ?_, ?_, ?_⟩
  · rw [Output.written_of_writeAll draws.output_eq, follows.written_eq, follows.blocks_eq,
      Transcript.blocks_session, ← Display.flatten_separated_zero,
      ← Display.flatten_separated_zero, Display.separated_append, Nat.zero_add,
      List.flatten_append]
  · rw [draws.counted rfl, follows.blocks_eq, Transcript.blocks_session, List.length_append]
  · rw [settled, follows.board_eq, Transcript.board_session]

end Monitor

namespace Usage

theorem ofCalls_concat (headings : Headings) (quiet : Bool) (calls : List Call) (last : Call) :
    ofCalls headings quiet (calls ++ [last]) = (ofCalls headings quiet calls).call last := by
  rw [ofCalls, List.foldl_append]
  rfl

/-- Where the next session of a monitor goes on, and whether the board has been set up. -/
structure Tracks (u : Usage) (quiet : Bool) (t : Transcript) (used : Bool) : Prop where
  follows : u.monitor.start.monitor.Follows quiet t
  grants : u.monitor.output.grantsAll = true
  alerts_eq : u.alerts = t.alerts
  started_eq : u.monitor.started = used

variable {u : Usage} {quiet : Bool} {t : Transcript} {used : Bool}

theorem Tracks.held (tracks : u.Tracks quiet t used) (task : Task) (url : String) :
    u.monitor.Held quiet task url (.ok ()) := by
  obtain ⟨written, held⟩ := tracks.follows.idle.session task url
  rw [(held.of_grantsAll tracks.grants).1] at held
  exact held

theorem Tracks.call (tracks : u.Tracks quiet t used) (c : Call) :
    (u.call c).Tracks quiet (t.call quiet c) true := by
  have idle := tracks.follows.idle
  cases c with
  | start =>
      refine ⟨?_, ?_, tracks.alerts_eq, idle.started⟩
      · rw [Usage.call, Monitor.start_of_started idle.started]
        exact tracks.follows
      · rw [Usage.call, Monitor.output_start]
        exact tracks.grants
  | session task url =>
      have held := tracks.held task url
      have reached := tracks.follows.session held
      refine ⟨?_, (held.of_grantsAll tracks.grants).2, ?_, reached.idle.started⟩
      · rw [Usage.call, Monitor.start_of_started reached.idle.started]
        exact reached
      · rw [Usage.call, Transcript.alerts_session, (held.settled rfl).2, tracks.alerts_eq]

theorem tracks_ofCalls (headings : Headings) (quiet : Bool) (calls : List Call) :
    (ofCalls headings quiet calls).Tracks quiet (.ofCalls headings quiet calls)
      !calls.isEmpty := by
  induction calls using List.reverseRecOn with
  | nil => exact ⟨⟨⟨rfl, rfl, rfl⟩, rfl, rfl, rfl⟩, rfl, rfl, rfl⟩
  | append_singleton calls last ih =>
      have used : (calls ++ [last]).isEmpty = false := by
        rw [List.isEmpty_eq_false_iff]
        exact List.concat_ne_nil last calls
      rw [ofCalls_concat, Transcript.ofCalls_concat, used]
      exact ih.call last

/-- A monitor whose output takes every line sets its board up in the first call, goes on from
there in every session, and has written the blocks of its transcript, with a separator between
two of them, and raised its alerts. The last block shows the board as it is. -/
theorem written_eq_transcript (headings : Headings) (quiet : Bool) (calls : List Call) :
    let u := ofCalls headings quiet calls
    let t := Transcript.ofCalls headings quiet calls
    u.monitor.start.result = calls.isEmpty ∧
      u.monitor.start.monitor.board = t.board ∧
      u.monitor.output.written = [Display.separator].intercalate t.blocks ∧
      (t.blocks.getLast? =
        if calls.any Call.isSession then some (Display.viewLines u.monitor.board.view)
        else none) ∧
      u.alerts = t.alerts ∧
      ∀ task url, (u.monitor.session task url).result =
        (task.ending.mapError (.run url)).map fun _ =>
          (u.monitor.session task url).monitor.board.view := by
  intro u t
  have tracks := tracks_ofCalls headings quiet calls
  have follows := tracks.follows
  refine ⟨?_, follows.board_eq, ?_, ?_, tracks.alerts_eq, ?_⟩
  · rw [Monitor.result_start, tracks.started_eq, Bool.not_not]
  · rw [← Monitor.output_start]
    exact follows.written_eq
  · rw [Transcript.getLast?_blocks, ← follows.board_eq]
    split
    · rename_i shown
      -- A call has been made, so starting again would leave the board alone.
      have used : calls.isEmpty = false := by
        cases calls with
        | nil => cases shown
        | cons first rest => rfl
      rw [Monitor.start_of_started (by rw [tracks.started_eq, used]; rfl)]
      rfl
    · rfl
  · intro task url
    exact (tracks.held task url).result_eq

/-- The first session changes nothing and still shows the empty board; the second crashes after
a frame that is applied and one that is not recognized. -/
example :
    let calls := [.session (.replay []) "first", .start,
      .session (.crash [(Message.add "paper").toFrame, .null]) "second"]
    (ofCalls {} false calls).monitor.output.written =
        ["Progress: 0 running | 0 total", "----", "Progress: 1 running | 1 total",
          "⏳ [paper] 0"] ∧
      (ofCalls {} false calls).alerts = ["Invalid message: null"] := by
  decide +kernel

end Usage

end Runboard
