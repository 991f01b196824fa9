import Runboard.Proofs.Session.Transcript

set_option autoImplicit false

/-!
The flag of the board is taken before the block is written. A change whose block was refused is
therefore on the board, but nothing asks for its block again, and a later session without changes
succeeds although the view it returns was never written.
-/

namespace Runboard

namespace Monitor

variable {m : Monitor} {quiet : Bool} {task : Task} {url : String}

/-- A session fails because a line or a flush is refused. -/
def isRefusal : Except SessionError View → Bool
  | .error (.output _) => true
  | _ => false

namespace Held

variable {written : Except OutputError Unit}

/-- A session is refused something exactly if not all that was due could be written. -/
theorem isRefusal_iff (held : m.Held quiet task url written) :
    isRefusal (m.session task url).result = true ↔ written ≠ .ok () := by
  rw [held.result_eq]
  cases written with
  | error e =>
      constructor
      · intro _ whole
        cases whole
      · intro _
        rfl
  | ok _ =>
      constructor
      · intro refused
        cases ending : task.ending <;> rw [ending] at refused <;> cases refused
      · intro failed
        exact absurd rfl failed

theorem of_not_refusal (held : m.Held quiet task url written)
    (passed : isRefusal (m.session task url).result = false) : written = .ok () := by
  by_contra failed
  rw [held.isRefusal_iff.mpr failed] at passed
  cases passed

theorem view_eq (held : m.Held quiet task url (.ok ())) {view : View}
    (succeeded : (m.session task url).result = .ok view) :
    view = (m.session task url).monitor.board.view := by
  have result := held.result_eq
  rw [succeeded] at result
  cases ending : task.ending with
  | error e =>
      rw [ending] at result
      cases result
  | ok _ =>
      rw [ending] at result
      exact Except.ok.inj result

/-- A bounded output is full after a session that it refused something. -/
theorem bounded (held : m.Held quiet task url written) {room : Nat}
    (before : m.output.Bounded room) :
    ∃ left ≤ room, (m.session task url).monitor.output.Bounded left ∧
      (isRefusal (m.session task url).result = true → left = 0) := by
  rw [← output_start] at before
  have shrinks := before.writeAll (Display.separated m.start.monitor.blocks
    (m.start.monitor.board.due quiet m.start.monitor.blocks task.frames))
  rw [held.draws.output_eq] at shrinks
  rw [held.isRefusal_iff]
  exact shrinks

/-- If nothing was due, everything is as it was. -/
theorem monitor_eq_of_undue (held : m.Held quiet task url (.ok ())) (started : m.started = true)
    (undue : m.board.due quiet m.blocks task.frames = []) : (m.session task url).monitor = m := by
  have draws := held.draws
  have board := (held.settled rfl).1
  rw [start_of_started started] at draws board
  rw [undue] at draws
  rw [Board.settled_of_unchanged (Board.due_eq_nil_iff.mp undue).2.2] at board
  exact draws.eq_of_nil board

end Held

end Monitor

/-- A monitor in use, and whether its output has refused something in one of the sessions. -/
structure Strained where
  monitor : Monitor
  refused : Bool := false

namespace Strained

def call (s : Strained) : Call → Strained
  | .start => { s with monitor := s.monitor.start.monitor }
  | .session task url =>
    let done := s.monitor.session task url
    { monitor := done.monitor, refused := s.refused || Monitor.isRefusal done.result }

/-- Calls to a new monitor whose output answers each line and each flush in its own way. -/
def ofCalls (headings : Headings) (quiet : Bool) (lines flushes : Answers) (calls : List Call) :
    Strained :=
  calls.foldl call { monitor := { headings, quiet, output := { lines, flushes } } }

theorem ofCalls_concat (headings : Headings) (quiet : Bool) (lines flushes : Answers)
    (calls : List Call) (last : Call) :
    ofCalls headings quiet lines flushes (calls ++ [last]) =
      (ofCalls headings quiet lines flushes calls).call last := by
  rw [ofCalls, List.foldl_append]
  rfl

/-- Until something is refused, the monitor is where its transcript says. -/
structure Beside (s : Strained) (quiet : Bool) (t : Transcript) : Prop where
  idle : s.monitor.start.monitor.Idle quiet
  intact : s.refused = false → s.monitor.start.monitor.Follows quiet t
  used : s.refused = true → s.monitor.started = true

theorem Beside.call {s : Strained} {quiet : Bool} {t : Transcript} (beside : s.Beside quiet t)
    (c : Call) : (s.call c).Beside quiet (t.call quiet c) := by
  obtain ⟨idle, intact, _⟩ := beside
  cases c with
  | start =>
      have same : (s.call .start).monitor.start.monitor = s.monitor.start.monitor :=
        Monitor.start_of_started idle.started
      refine ⟨?_, ?_, fun _ => idle.started⟩
      · rw [same]
        exact idle
      · rw [same]
        exact intact
  | session task url =>
      obtain ⟨written, held⟩ := idle.session task url
      have next := held.idle idle
      have same : (s.call (.session task url)).monitor.start.monitor =
          (s.monitor.session task url).monitor := Monitor.start_of_started next.started
      refine ⟨?_, ?_, fun _ => next.started⟩
      · rw [same]
        exact next
      · intro clear
        obtain ⟨before, now⟩ := Bool.or_eq_false_iff.mp clear
        have whole := held.of_not_refusal now
        rw [same]
        exact (intact before).session (whole ▸ held)

theorem beside_ofCalls (headings : Headings) (quiet : Bool) (lines flushes : Answers)
    (calls : List Call) :
    (ofCalls headings quiet lines flushes calls).Beside quiet (.ofCalls headings quiet calls) := by
  induction calls using List.reverseRecOn with
  | nil =>
      refine ⟨⟨rfl, rfl, rfl⟩, fun _ => ⟨⟨rfl, rfl, rfl⟩, rfl, rfl, rfl⟩, ?_⟩
      intro refused
      cases refused
  | append_singleton calls last ih =>
      rw [ofCalls_concat, Transcript.ofCalls_concat]
      exact ih.call last

/-- After it has refused something, a bounded output is full. -/
theorem bounded_ofCalls (headings : Headings) (quiet : Bool) (room : Nat) (calls : List Call) :
    ∃ left ≤ room, (ofCalls headings quiet (.upTo room) {} calls).monitor.output.Bounded left ∧
      ((ofCalls headings quiet (.upTo room) {} calls).refused = true → left = 0) := by
  induction calls using List.reverseRecOn with
  | nil =>
      refine ⟨room, Nat.le_refl room, ⟨rfl, rfl⟩, ?_⟩
      intro refused
      cases refused
  | append_singleton calls last ih =>
      obtain ⟨left, less, bounded, full⟩ := ih
      rw [ofCalls_concat]
      cases last with
      | start =>
          refine ⟨left, less, ?_, full⟩
          rw [call, Monitor.output_start]
          exact bounded
      | session task url =>
          obtain ⟨written, held⟩ :=
            (beside_ofCalls headings quiet (.upTo room) {} calls).idle.session task url
          obtain ⟨last, least, after, spent⟩ := held.bounded bounded
          refine ⟨last, Nat.le_trans least less, after, ?_⟩
          intro refused
          rcases Bool.or_eq_true_iff.mp refused with earlier | now
          · have none_left := full earlier
            omega
          · exact spent now

/-- Suppose that a session succeeds. If nothing was refused before, the monitor has written the
blocks of its transcript and the last of them shows the view that the session returns. If something
was, the blocks that are due in this session stand behind what was there before, and the last of
them shows the view; but there may be none, namely if the monitor is not quiet, has written a block
before and no frame of the session is applied. Then the view is that of the board as an earlier
session left it. An output that takes a number of lines and then no other leaves only this case. -/
theorem last_block_unless_refused (headings : Headings) (quiet : Bool) (lines flushes : Answers)
    (calls : List Call) (task : Task) (url : String) (view : View)
    (succeeded :
      ((ofCalls headings quiet lines flushes calls).monitor.session task url).result =
        .ok view) :
    let s := ofCalls headings quiet lines flushes calls
    let after := (s.monitor.session task url).monitor
    let t := Transcript.ofCalls headings quiet (calls ++ [.session task url])
    let due := s.monitor.board.due quiet s.monitor.blocks task.frames
    (s.refused = false →
      after.output.written = [Display.separator].intercalate t.blocks ∧
        t.blocks.getLast? = some (Display.viewLines view)) ∧
    (s.refused = true →
      after.output.written =
          s.monitor.output.written ++ (Display.separated s.monitor.blocks due).flatten ∧
        (due ≠ [] → due.getLast? = some (Display.viewLines view)) ∧
        (due = [] ↔
          quiet = false ∧ s.monitor.blocks ≠ 0 ∧ s.monitor.board.changes task.frames = []) ∧
        (due = [] → after = s.monitor ∧ view = s.monitor.board.view) ∧
        ∀ room, lines = .upTo room → flushes = {} → due = []) := by
  intro s after t due
  have beside : s.Beside quiet (.ofCalls headings quiet calls) :=
    beside_ofCalls headings quiet lines flushes calls
  obtain ⟨written, held⟩ := beside.idle.session task url
  have passed : Monitor.isRefusal (s.monitor.session task url).result = false := by
    rw [succeeded]
    rfl
  rw [held.of_not_refusal passed] at held
  have view_eq := held.view_eq succeeded
  obtain ⟨settled, _⟩ := held.settled rfl
  constructor
  · intro clear
    have follows := (beside.intact clear).session held
    rw [← Transcript.ofCalls_concat] at follows
    refine ⟨follows.written_eq, ?_⟩
    rw [Transcript.getLast?_blocks, ← follows.board_eq, view_eq]
    simp [Call.isSession, Board.block]
  · intro refused
    have started := beside.used refused
    have draws := held.draws
    rw [Monitor.start_of_started started] at draws settled
    refine ⟨Output.written_of_writeAll draws.output_eq, ?_, Board.due_eq_nil_iff, ?_, ?_⟩
    · intro some_due
      rw [Board.getLast?_due some_due, view_eq, settled]
      rfl
    · intro undue
      have same := held.monitor_eq_of_undue started undue
      refine ⟨same, ?_⟩
      rw [view_eq, same]
    · rintro room rfl rfl
      obtain ⟨left, _, bounded, full⟩ := bounded_ofCalls headings quiet room calls
      rw [full refused] at bounded
      have lines : ∀ block ∈ due, block ≠ [] := by
        intro block member
        obtain ⟨board, rfl⟩ := Board.exists_block_of_mem_due member
        exact List.cons_ne_nil _ _
      have none := bounded.eq_nil_of_full (Display.ne_nil_of_mem_separated lines) draws.output_eq
      cases listed : due with
      | nil => rfl
      | cons block rest =>
          rw [listed] at none
          cases none

/-- The first run crashes after a line was written; the second fits the room exactly. With room for
every line, the flush of the second block is refused; the next session goes on behind it. -/
theorem last_block_within_room :
    (let s := ofCalls {} false (.upTo 5) {}
      [.session (.crash [(Message.add "paper").toFrame]) "first"]
    let after := (s.monitor.session
      (.replay [(Message.update "paper" ⟨"1"⟩).toFrame]) "second").monitor
    s.refused = false ∧ after.output.lines = .upTo 0 ∧
      after.output.written = ["Progress: 1 running | 1 total", "⏳ [paper] 0", "----",
        "Progress: 1 running | 1 total", "⏳ [paper] 1"]) ∧
    let s := ofCalls {} false {} ⟨[true, false], true⟩
      [.session (.replay [(Message.add "paper").toFrame,
        (Message.update "paper" ⟨"1"⟩).toFrame]) "first"]
    let after := (s.monitor.session
      (.replay [(Message.update "paper" ⟨"2"⟩).toFrame]) "second").monitor
    s.refused = true ∧
      after.output.written = ["Progress: 1 running | 1 total", "⏳ [paper] 0", "----",
        "Progress: 1 running | 1 total", "⏳ [paper] 1", "----",
        "Progress: 1 running | 1 total", "⏳ [paper] 2"] := by
  constructor
  · intro s after
    have outcome := last_block_unless_refused {} false (.upTo 5) {}
      [.session (.crash [(Message.add "paper").toFrame]) "first"]
      (.replay [(Message.update "paper" ⟨"1"⟩).toFrame]) "second" _ rfl
    have clear : s.refused = false := by decide +kernel
    refine ⟨clear, by decide +kernel, ?_⟩
    rw [(outcome.1 clear).1]
    decide +kernel
  · intro s after
    have outcome := last_block_unless_refused {} false {} ⟨[true, false], true⟩
      [.session (.replay [(Message.add "paper").toFrame,
        (Message.update "paper" ⟨"1"⟩).toFrame]) "first"]
      (.replay [(Message.update "paper" ⟨"2"⟩).toFrame]) "second" _ rfl
    have refused : s.refused = true := by decide +kernel
    refine ⟨refused, ?_⟩
    rw [(outcome.2 refused).1]
    decide +kernel

/-- There is room for one block. The second change cannot be shown and ends its session; the next
session has no frames, so it succeeds, and its view was never written. -/
theorem refused_change_is_not_written :
    let s := ofCalls {} false (.upTo 2) {}
      [.session (.replay [(Message.add "paper").toFrame,
        (Message.update "paper" ⟨"1"⟩).toFrame]) "replay"]
    let next := s.monitor.session (.replay []) "replay"
    s.refused = true ∧
      next.monitor.output.written = ["Progress: 1 running | 1 total", "⏳ [paper] 0"] ∧
      ∃ view, next.result = .ok view ∧
        Display.viewLines view = ["Progress: 1 running | 1 total", "⏳ [paper] 1"] := by
  refine ⟨by decide +kernel, by decide +kernel, _, rfl, ?_⟩
  decide +kernel

end Strained

end Runboard
