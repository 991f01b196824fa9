import Runboard.Session

set_option autoImplicit false

namespace Runboard

namespace Task

/-- The frames a task posts if nothing stops it. -/
def frames : Task → List Json
  | .replay frames => frames
  | .fail frames _ => frames
  | .crash frames => frames

/-- What a task comes to after it has posted all its frames. -/
def ending : Task → Except RunError Unit
  | .replay _ => .ok ()
  | .fail _ e => .error e
  | .crash _ => .error .crashed

theorem postSilently_open (c : Channel) (isOpen : c.receiving = true) (frames : List Json) :
    postSilently c frames = ({ c with queue := c.queue ++ frames }, .ok ()) := by
  induction frames generalizing c with
  | nil => simp [postSilently]
  | cons frame frames ih =>
      simp only [postSilently, Channel.post, isOpen, ↓reduceIte]
      rw [ih _ rfl]
      simp

theorem postLogged_open (c : Channel) (isOpen : c.receiving = true) (number : Nat)
    (frames : List Json) :
    (postLogged c number frames).1 = { c with queue := c.queue ++ frames } ∧
      (postLogged c number frames).2.1 = .ok () := by
  induction frames generalizing c number with
  | nil => simp [postLogged]
  | cons frame frames ih =>
      have next := ih { c with queue := c.queue ++ [frame] } isOpen (number + 1)
      simp only [postLogged, Channel.post, isOpen, ↓reduceIte]
      exact ⟨by simpa [isOpen] using next.1, by simpa [isOpen] using next.2⟩

/-- Nothing that a task posts into a new channel is lost, and it ends on its own terms. -/
theorem run_new (task : Task) (url : String) :
    (task.run url {}).channel.queue = task.frames ∧ (task.run url {}).outcome = task.ending := by
  cases task with
  | replay frames =>
      obtain ⟨channel, outcome⟩ := postLogged_open {} rfl 1 frames
      simp only [run, work, Channel.closePosts, channel, outcome, Task.frames, ending,
        List.nil_append, true_and]
      rfl
  | fail frames e =>
      simp only [run, work, postSilently_open {} rfl frames, Channel.closePosts, Task.frames,
        ending, List.nil_append, true_and]
      rfl
  | crash frames =>
      simp only [run, work, postSilently_open {} rfl frames, Channel.closePosts, Task.frames,
        ending, List.nil_append, and_self]

end Task

namespace Monitor

/-- Showing the frames leads to the monitor and raises the alerts. -/
structure Shows (m : Monitor) (frames : List Json) (result : Except OutputError Unit)
    (after : Monitor) (alerts : List String) : Prop where
  result_eq : (m.showFrames frames).result = result
  monitor_eq : (m.showFrames frames).monitor = after
  alerts_eq : (m.showFrames frames).alerts = alerts

theorem Shows.nil (m : Monitor) : m.Shows [] (.ok ()) m [] := ⟨rfl, rfl, rfl⟩

/-- A frame that can be shown is followed by the others. -/
theorem shows_cons_of_ok {m after : Monitor} {frame : Json}
    (step : (m.showFrame frame).result = .ok ()) (frames : List Json)
    (result : Except OutputError Unit) (alerts : List String) :
    m.Shows (frame :: frames) result after alerts ↔
      ∃ later, (m.showFrame frame).monitor.Shows frames result after later ∧
        alerts = (m.showFrame frame).alerts ++ later := by
  constructor
  · rintro ⟨rfl, rfl, rfl⟩
    simp only [showFrames, step]
    exact ⟨_, ⟨rfl, rfl, rfl⟩, rfl⟩
  · rintro ⟨later, ⟨rfl, rfl, rfl⟩, rfl⟩
    refine ⟨?_, ?_, ?_⟩ <;> simp only [showFrames, step]

/-- After a frame that cannot be shown, no further frame is looked at. -/
theorem shows_cons_of_error {m after : Monitor} {frame : Json} {e : OutputError}
    (step : (m.showFrame frame).result = .error e) (frames : List Json)
    (result : Except OutputError Unit) (alerts : List String) :
    m.Shows (frame :: frames) result after alerts ↔
      result = .error e ∧ (m.showFrame frame).monitor = after ∧
        (m.showFrame frame).alerts = alerts := by
  constructor
  · rintro ⟨rfl, rfl, rfl⟩
    simp only [showFrames, step, and_self]
  · rintro ⟨rfl, rfl, rfl⟩
    refine ⟨?_, ?_, ?_⟩ <;> simp only [showFrames, step]

theorem Shows.append {m between after : Monitor} {first second : List Json}
    {result : Except OutputError Unit} {alerts later : List String}
    (before : m.Shows first (.ok ()) between alerts)
    (behind : between.Shows second result after later) :
    m.Shows (first ++ second) result after (alerts ++ later) := by
  induction first generalizing m alerts with
  | nil =>
      obtain ⟨_, rfl, rfl⟩ := before
      exact behind
  | cons frame first ih =>
      cases step : (m.showFrame frame).result with
      | error e =>
          have stopped := (shows_cons_of_error step _ _ _).mp before
          cases stopped.1
      | ok _ =>
          obtain ⟨middle, rest, rfl⟩ := (shows_cons_of_ok step _ _ _).mp before
          rw [List.cons_append, shows_cons_of_ok step]
          exact ⟨middle ++ later, ih rest, List.append_assoc _ _ _⟩

theorem shows_singleton (m : Monitor) (frame : Json) :
    m.Shows [frame] (m.showFrame frame).result (m.showFrame frame).monitor
      (m.showFrame frame).alerts := by
  cases step : (m.showFrame frame).result with
  | error e => exact (shows_cons_of_error step _ _ _).mpr ⟨rfl, rfl, rfl⟩
  | ok _ => exact (shows_cons_of_ok step _ _ _).mpr ⟨[], Shows.nil _, (List.append_nil _).symm⟩

theorem Shows.stop {m after : Monitor} {frames : List Json} {e : OutputError}
    {alerts : List String} (stopped : m.Shows frames (.error e) after alerts) (more : List Json) :
    m.Shows (frames ++ more) (.error e) after alerts := by
  induction frames generalizing m alerts with
  | nil => cases stopped.result_eq
  | cons frame frames ih =>
      cases step : (m.showFrame frame).result with
      | error e' =>
          rw [List.cons_append, shows_cons_of_error step]
          exact (shows_cons_of_error step _ _ _).mp stopped
      | ok _ =>
          obtain ⟨later, rest, rfl⟩ := (shows_cons_of_ok step _ _ _).mp stopped
          rw [List.cons_append, shows_cons_of_ok step]
          exact ⟨later, ih rest, rfl⟩

/-- A session whose frames cannot all be shown fails with the error of the output. -/
theorem session_of_stopped {m after : Monitor} {task : Task} (url : String) {e : OutputError}
    {alerts : List String}
    (stopped : m.start.monitor.Shows task.frames (.error e) after alerts) :
    (m.session task url).result = .error (.output e) ∧ (m.session task url).monitor = after ∧
      (m.session task url).alerts = alerts := by
  obtain ⟨queue, _⟩ := task.run_new url
  simp only [session, queue, stopped.result_eq, stopped.monitor_eq, stopped.alerts_eq, and_self]

/-- A session whose frames can all be shown is concluded. -/
theorem session_of_shown {m after : Monitor} {task : Task} (url : String) {alerts : List String}
    (shown : m.start.monitor.Shows task.frames (.ok ()) after alerts) :
    (m.session task url).result = (after.conclude url task.ending).result ∧
      (m.session task url).monitor = (after.conclude url task.ending).monitor ∧
      (m.session task url).alerts = alerts ++ (after.conclude url task.ending).alerts := by
  obtain ⟨queue, outcome⟩ := task.run_new url
  simp only [session, queue, outcome, shown.result_eq, shown.monitor_eq, shown.alerts_eq,
    and_self]

end Monitor

end Runboard
