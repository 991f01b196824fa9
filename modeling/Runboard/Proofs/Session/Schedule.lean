import Mathlib.Logic.Relation
import Runboard.Proofs.Session.Sequence

set_option autoImplicit false

/-!
A session as two parties that run side by side.

The task posts its frames into the channel and then drops its end, while the host takes frames
out, dispatches them, delivers their alerts and writes blocks until the channel has ended or a
block cannot be written; then it drops its own end and waits for the task. `Step` lets either
party go on at any time. Every such run comes to an end, and whatever the order of the steps, the
end is that of `Monitor.session`, where the task has finished before the first frame is shown.
-/

namespace Runboard.Schedule

inductive Phase
  /-- It waits for the next frame. -/
  | receiving
  /-- It has taken a frame. -/
  | holding (frame : Json)
  /-- It has dispatched a frame and not yet delivered the alerts. -/
  | alerting (texts : List String)
  /-- It is about to write the block of a frame, if one is due. -/
  | drawing
  /-- It has left the loop. -/
  | leaving (shown : Except OutputError Unit)
  /-- It has dropped its end of the channel and waits for the task. -/
  | joining (shown : Except OutputError Unit)
  | finished (result : Except SessionError View)

/-- The host, with all that it has dispatched and delivered. -/
structure Host where
  monitor : Monitor
  phase : Phase := .receiving
  dispatched : List Json := []
  alerts : List String := []

structure Runner where
  pending : List Json
  /-- What it comes to when nothing is pending any more. -/
  ending : Except RunError Unit
  posted : List Json := []
  exited : Bool := false

structure World where
  url : String
  channel : Channel := {}
  runner : Runner
  host : Host

namespace Host

def isFinished (h : Host) : Bool :=
  match h.phase with
  | .finished _ => true
  | _ => false

def dispatch (h : Host) (frame : Json) : Host :=
  let step := h.monitor.board.dispatch frame
  { h with
    monitor := { h.monitor with board := step.board }
    phase := .alerting step.alerts
    dispatched := h.dispatched ++ [frame] }

/-- Writes the block of a frame, if one is due, and leaves the loop if that fails. -/
def draw (h : Host) : Host :=
  let (result, monitor) := h.monitor.draw
  { h with
    monitor
    phase :=
      match result with
      | .ok () => .receiving
      | .error e => .leaving (.error e) }

/-- Concludes the session once the task has ended. -/
def finish (h : Host) (url : String) (shown : Except OutputError Unit)
    (outcome : Except RunError Unit) : Host :=
  match shown with
  | .error e => { h with phase := .finished (.error (.output e)) }
  | .ok () =>
    let last := h.monitor.conclude url outcome
    { h with
      monitor := last.monitor
      phase := .finished last.result
      alerts := h.alerts ++ last.alerts }

end Host

def World.begin (m : Monitor) (task : Task) (url : String) : World :=
  { url
    runner := { pending := task.frames, ending := task.ending }
    host := { monitor := m.start.monitor } }

/-- A step of one party. The host cannot go on while it waits for a frame and none is queued. -/
inductive Step : World → World → Prop
  | post {w : World} {frame : Json} {rest : List Json} {channel : Channel}
      (running : w.channel.posting = true) (next : w.runner.pending = frame :: rest)
      (taken : w.channel.post frame = .ok channel) :
      Step w { w with
        channel
        runner := { w.runner with pending := rest, posted := w.runner.posted ++ [frame] } }
  /-- A task that cannot post returns the error. -/
  | giveUp {w : World} {frame : Json} {rest : List Json} {e : ChannelError}
      (running : w.channel.posting = true) (next : w.runner.pending = frame :: rest)
      (refused : w.channel.post frame = .error e) :
      Step w { w with runner := { w.runner with pending := [], ending := .error (.channel e) } }
  | dropPort {w : World} (running : w.channel.posting = true) (idle : w.runner.pending = []) :
      Step w { w with channel := w.channel.closePosts }
  | exit {w : World} (dropped : w.channel.posting = false) (alive : w.runner.exited = false) :
      Step w { w with runner := { w.runner with exited := true } }
  | receive {w : World} {frame : Json} {channel : Channel} (waiting : w.host.phase = .receiving)
      (received : w.channel.receive = (.frame frame, channel)) :
      Step w { w with channel, host := { w.host with phase := .holding frame } }
  | hangUp {w : World} {channel : Channel} (waiting : w.host.phase = .receiving)
      (received : w.channel.receive = (.ended, channel)) :
      Step w { w with channel, host := { w.host with phase := .leaving (.ok ()) } }
  | dispatch {w : World} {frame : Json} (holding : w.host.phase = .holding frame) :
      Step w { w with host := w.host.dispatch frame }
  | deliver {w : World} {texts : List String} (alerting : w.host.phase = .alerting texts) :
      Step w { w with
        host := { w.host with phase := .drawing, alerts := w.host.alerts ++ texts } }
  | draw {w : World} (drawing : w.host.phase = .drawing) : Step w { w with host := w.host.draw }
  | dropReceiver {w : World} {shown : Except OutputError Unit}
      (leaving : w.host.phase = .leaving shown) :
      Step w { w with
        channel := w.channel.closeReceiver
        host := { w.host with phase := .joining shown } }
  | join {w : World} {shown : Except OutputError Unit} (joining : w.host.phase = .joining shown)
      (gone : w.runner.exited = true) :
      Step w { w with host := w.host.finish w.url shown w.runner.ending }

/-! Every run ends: a frame that is pending has more steps before it than one that is queued, and
so on down to the end of the session. -/

/-- The steps that the host can still take on its own. -/
def Phase.weight : Phase → Nat
  | .holding _ => 7
  | .alerting _ => 6
  | .drawing => 5
  | .receiving => 3
  | .leaving _ => 2
  | .joining _ => 1
  | .finished _ => 0

/-- A bound on the steps that are left. -/
def World.weight (w : World) : Nat :=
  6 * w.runner.pending.length + 5 * w.channel.queue.length + w.host.phase.weight +
    w.channel.posting.toNat + (!w.runner.exited).toNat

theorem weight_draw (h : Host) : h.draw.phase.weight ≤ 3 := by
  cases drawn : h.monitor.draw.1 <;> simp [Host.draw, drawn, Phase.weight]

theorem weight_finish (h : Host) (url : String) (shown : Except OutputError Unit)
    (outcome : Except RunError Unit) : (h.finish url shown outcome).phase.weight = 0 := by
  cases shown <;> rfl

theorem post_cases (c : Channel) (frame : Json) :
    c.receiving = true ∧ c.post frame = .ok { c with queue := c.queue ++ [frame] } ∨
      c.receiving = false ∧ c.post frame = .error .closed := by
  cases receiving : c.receiving <;> simp [Channel.post, receiving]

theorem receive_cases (c : Channel) :
    (∃ frame rest, c.queue = frame :: rest ∧ c.receive = (.frame frame, { c with queue := rest })) ∨
      c.queue = [] ∧ c.receive = (if c.posting then .waiting else .ended, c) := by
  cases queue : c.queue <;> simp [Channel.receive, queue]

theorem of_post_ok {c channel : Channel} {frame : Json} (taken : c.post frame = .ok channel) :
    c.receiving = true ∧ channel = { c with queue := c.queue ++ [frame] } := by
  rcases post_cases c frame with ⟨receiving, same⟩ | ⟨_, refused⟩
  · exact ⟨receiving, Except.ok.inj (taken.symm.trans same)⟩
  · cases refused.symm.trans taken

theorem of_post_error {c : Channel} {frame : Json} {e : ChannelError}
    (refused : c.post frame = .error e) : c.receiving = false := by
  rcases post_cases c frame with ⟨_, taken⟩ | ⟨closed, _⟩
  · cases taken.symm.trans refused
  · exact closed

theorem of_receive_frame {c channel : Channel} {frame : Json}
    (received : c.receive = (.frame frame, channel)) :
    ∃ rest, c.queue = frame :: rest ∧ channel = { c with queue := rest } := by
  rcases receive_cases c with ⟨first, rest, queue, same⟩ | ⟨_, same⟩
  · cases same.symm.trans received
    exact ⟨rest, queue, rfl⟩
  · have differs := congrArg Prod.fst (same.symm.trans received)
    dsimp only at differs
    split at differs <;> cases differs

theorem of_receive_ended {c channel : Channel} (received : c.receive = (.ended, channel)) :
    c.queue = [] ∧ c.posting = false ∧ channel = c := by
  rcases receive_cases c with ⟨_, _, _, same⟩ | ⟨empty, same⟩
  · cases same.symm.trans received
  · have ended := congrArg Prod.fst (same.symm.trans received)
    have kept := congrArg Prod.snd (received.symm.trans same)
    refine ⟨empty, ?_, kept⟩
    cases posting : c.posting with
    | false => rfl
    | true =>
        rw [posting] at ended
        cases ended

theorem Step.weight_lt {w after : World} (step : Step w after) : after.weight < w.weight := by
  cases step with
  | post running next taken =>
      obtain ⟨_, rfl⟩ := of_post_ok taken
      simp only [World.weight, next, List.length_cons, List.length_append, List.length_nil]
      omega
  | giveUp running next refused =>
      simp only [World.weight, next, List.length_cons, List.length_nil]
      omega
  | dropPort running idle =>
      simp only [World.weight, Channel.closePosts, running, Bool.toNat_true, Bool.toNat_false]
      omega
  | exit dropped alive =>
      simp only [World.weight, alive, Bool.not_true, Bool.not_false, Bool.toNat_true,
        Bool.toNat_false]
      omega
  | receive waiting received =>
      obtain ⟨rest, queue, rfl⟩ := of_receive_frame received
      simp only [World.weight, waiting, queue, Phase.weight, List.length_cons]
      omega
  | hangUp waiting received =>
      obtain ⟨_, _, rfl⟩ := of_receive_ended received
      simp only [World.weight, waiting, Phase.weight]
      omega
  | dispatch holding =>
      simp only [World.weight, holding, Host.dispatch, Phase.weight]
      omega
  | deliver alerting =>
      simp only [World.weight, alerting, Phase.weight]
      omega
  | draw drawing =>
      have bound := weight_draw w.host
      have before : Phase.drawing.weight = 5 := rfl
      simp only [World.weight, drawing]
      omega
  | dropReceiver leaving =>
      simp only [World.weight, leaving, Channel.closeReceiver, Phase.weight, List.length_nil]
      omega
  | join joining gone =>
      have before (shown : Except OutputError Unit) : (Phase.joining shown).weight = 1 := rfl
      simp only [World.weight, joining, weight_finish, before]
      omega

/-- No party can go on for ever. -/
theorem wellFounded_step : WellFounded fun after before => Step before after :=
  Subrelation.wf (fun step => step.weight_lt) (measure World.weight).wf

theorem runner_step_of_posting {w : World} (running : w.channel.posting = true) :
    ∃ after, Step w after := by
  cases pending : w.runner.pending with
  | nil => exact ⟨_, .dropPort running pending⟩
  | cons frame rest =>
      rcases post_cases w.channel frame with ⟨_, taken⟩ | ⟨_, refused⟩
      · exact ⟨_, .post running pending taken⟩
      · exact ⟨_, .giveUp running pending refused⟩

/-- As long as the session is not over, one of the parties can go on. -/
theorem step_of_not_finished (w : World) (unfinished : w.host.isFinished = false) :
    ∃ after, Step w after := by
  cases phase : w.host.phase with
  | receiving =>
      rcases receive_cases w.channel with ⟨frame, rest, _, received⟩ | ⟨_, received⟩
      · exact ⟨_, .receive phase received⟩
      · cases running : w.channel.posting with
        | true => exact runner_step_of_posting running
        | false =>
            rw [running] at received
            exact ⟨_, .hangUp phase received⟩
  | holding frame => exact ⟨_, .dispatch phase⟩
  | alerting texts => exact ⟨_, .deliver phase⟩
  | drawing => exact ⟨_, .draw phase⟩
  | leaving shown => exact ⟨_, .dropReceiver phase⟩
  | joining shown =>
      cases gone : w.runner.exited with
      | true => exact ⟨_, .join phase gone⟩
      | false =>
          cases running : w.channel.posting with
          | true => exact runner_step_of_posting running
          | false => exact ⟨_, .exit running gone⟩
  | finished result =>
      rw [Host.isFinished, phase] at unfinished
      cases unfinished

/-! No frame is lost, repeated or overtaken while the host listens. -/

/-- The frame the host has taken and not yet dispatched. -/
def Phase.held : Phase → List Json
  | .holding frame => [frame]
  | _ => []

/-- The host still has its end of the channel. -/
def Phase.listens : Phase → Bool
  | .joining _ => false
  | .finished _ => false
  | _ => true

/-- The host has left the loop because the channel has ended. -/
def Phase.hungUp : Phase → Bool
  | .leaving (.ok ()) => true
  | .joining (.ok ()) => true
  | _ => false

structure Flow (task : Task) (w : World) : Prop where
  idle : w.channel.posting = false → w.runner.pending = []
  listens : w.channel.receiving = w.host.phase.listens
  /-- Each frame is pending, queued, in the hand of the host or dispatched. -/
  kept : w.channel.receiving = true →
    w.runner.posted ++ w.runner.pending = task.frames ∧ w.runner.ending = task.ending ∧
      w.host.dispatched ++ w.host.phase.held ++ w.channel.queue = w.runner.posted
  /-- The channel has ended only if the task has posted all. -/
  ended : w.host.phase.hungUp = true → w.channel.posting = false ∧ w.runner.ending = task.ending
  in_order : w.host.dispatched <+: w.runner.posted
  within : w.runner.posted <+: task.frames

theorem flow_begin (m : Monitor) (task : Task) (url : String) :
    Flow task (.begin m task url) := by
  refine ⟨?_, rfl, fun _ => ⟨rfl, rfl, rfl⟩, ?_, List.prefix_rfl, List.nil_prefix⟩
  · intro dropped
    cases dropped
  · intro hungUp
    cases hungUp

theorem Flow.not_ended {task : Task} {w : World} (flow : Flow task w)
    (running : w.channel.posting = true) : w.host.phase.hungUp ≠ true := by
  intro hungUp
  have dropped := (flow.ended hungUp).1
  rw [running] at dropped
  cases dropped

theorem listens_draw (h : Host) : h.draw.phase.listens = true ∧ h.draw.phase.held = [] ∧
    h.draw.phase.hungUp = false := by
  cases drawn : h.monitor.draw.1 <;>
    simp [Host.draw, drawn, Phase.listens, Phase.held, Phase.hungUp]

theorem phase_finish (h : Host) (url : String) (shown : Except OutputError Unit)
    (outcome : Except RunError Unit) :
    ∃ result, (h.finish url shown outcome).phase = .finished result := by
  cases shown <;> exact ⟨_, rfl⟩

theorem dispatched_finish (h : Host) (url : String) (shown : Except OutputError Unit)
    (outcome : Except RunError Unit) : (h.finish url shown outcome).dispatched = h.dispatched := by
  cases shown <;> rfl

theorem Flow.step {task : Task} {w after : World} (flow : Flow task w) (step : Step w after) :
    Flow task after := by
  cases step with
  | post running next taken =>
      obtain ⟨receiving, rfl⟩ := of_post_ok taken
      obtain ⟨all, ending, queued⟩ := flow.kept receiving
      rw [next] at all
      refine ⟨?_, flow.listens, ?_, ?_, ?_, ?_⟩
      · intro dropped
        cases running.symm.trans dropped
      · intro _
        refine ⟨by simpa using all, ending, ?_⟩
        rw [← queued, List.append_assoc _ w.channel.queue]
      · intro hungUp
        exact absurd hungUp (flow.not_ended running)
      · exact flow.in_order.trans (List.prefix_append _ _)
      · exact ⟨_, by simpa using all⟩
  | giveUp running next refused =>
      have closed := of_post_error refused
      refine ⟨fun _ => rfl, flow.listens, ?_, ?_, flow.in_order, flow.within⟩
      · intro receiving
        cases closed.symm.trans receiving
      · intro hungUp
        exact absurd hungUp (flow.not_ended running)
  | dropPort running idle =>
      refine ⟨fun _ => idle, flow.listens, flow.kept, ?_, flow.in_order, flow.within⟩
      intro hungUp
      exact absurd hungUp (flow.not_ended running)
  | exit dropped alive =>
      exact ⟨flow.idle, flow.listens, flow.kept, flow.ended, flow.in_order, flow.within⟩
  | receive waiting received =>
      obtain ⟨rest, queue, rfl⟩ := of_receive_frame received
      refine ⟨flow.idle, ?_, ?_, ?_, flow.in_order, flow.within⟩
      · rw [flow.listens, waiting]
        rfl
      · intro receiving
        obtain ⟨all, ending, queued⟩ := flow.kept receiving
        refine ⟨all, ending, ?_⟩
        rw [← queued, waiting, queue]
        simp [Phase.held]
      · intro hungUp
        cases hungUp
  | hangUp waiting received =>
      obtain ⟨_, dropped, rfl⟩ := of_receive_ended received
      have receiving : w.channel.receiving = true := by
        rw [flow.listens, waiting]
        rfl
      obtain ⟨all, ending, queued⟩ := flow.kept receiving
      rw [waiting] at queued
      exact ⟨flow.idle, receiving, fun _ => ⟨all, ending, queued⟩, fun _ => ⟨dropped, ending⟩,
        flow.in_order, flow.within⟩
  | dispatch holding =>
      have receiving : w.channel.receiving = true := by
        rw [flow.listens, holding]
        rfl
      obtain ⟨all, ending, queued⟩ := flow.kept receiving
      rw [holding] at queued
      refine ⟨flow.idle, receiving, fun _ => ⟨all, ending, ?_⟩, ?_, ?_, flow.within⟩
      · rw [← queued]
        simp [Host.dispatch, Phase.held]
      · intro hungUp
        cases hungUp
      · exact ⟨_, queued⟩
  | deliver alerting =>
      have listens := flow.listens
      have kept := flow.kept
      rw [alerting] at listens kept
      refine ⟨flow.idle, listens, kept, ?_, flow.in_order, flow.within⟩
      intro hungUp
      cases hungUp
  | draw drawing =>
      obtain ⟨stillListens, nothing, notEnded⟩ := listens_draw w.host
      have listens := flow.listens
      have kept := flow.kept
      rw [drawing] at listens kept
      refine ⟨flow.idle, listens.trans stillListens.symm, ?_, ?_, flow.in_order, flow.within⟩
      · rw [nothing]
        exact kept
      · intro hungUp
        cases notEnded.symm.trans hungUp
  | @dropReceiver shown leaving =>
      refine ⟨flow.idle, rfl, ?_, ?_, flow.in_order, flow.within⟩
      · intro receiving
        cases receiving
      · intro hungUp
        cases shown with
        | ok _ =>
            apply flow.ended
            rw [leaving]
            rfl
        | error e => cases hungUp
  | join joining gone =>
      obtain ⟨result, finished⟩ := phase_finish w.host w.url _ w.runner.ending
      have listens := flow.listens
      rw [joining] at listens
      refine ⟨flow.idle, ?_, ?_, ?_, ?_, flow.within⟩
      · rw [finished]
        exact listens
      · intro receiving
        cases listens.symm.trans receiving
      · rw [finished]
        intro hungUp
        cases hungUp
      · rw [dispatched_finish]
        exact flow.in_order

/-! What the host has done so far is what showing the dispatched frames in sequence does. -/

/-- The last dispatched frame is only half shown: alerts are left to be delivered, and its block
is not yet written. -/
def Midway (first : Monitor) (h : Host) (left : List String) : Prop :=
  ∃ before frame between alerts, h.dispatched = before ++ [frame] ∧
    first.Shows before (.ok ()) between alerts ∧
    h.monitor = { between with board := (between.board.dispatch frame).board } ∧
    h.alerts ++ left = alerts ++ (between.board.dispatch frame).alerts

/-- The last dispatched frame, and none before it, could not be shown. -/
def Stopped (first : Monitor) (h : Host) (e : OutputError) : Prop :=
  ∃ before frame between alerts, h.dispatched = before ++ [frame] ∧
    first.Shows before (.ok ()) between alerts ∧
    (between.showFrame frame).result = .error e ∧
    (between.showFrame frame).monitor = h.monitor ∧
    alerts ++ (between.showFrame frame).alerts = h.alerts

/-- The host has left the loop. -/
def Left (first : Monitor) (task : Task) (h : Host) : Except OutputError Unit → Prop
  | .ok () => h.dispatched = task.frames ∧ first.Shows task.frames (.ok ()) h.monitor h.alerts
  | .error e => Stopped first h e

/-- The session is over and has done what it does in sequence. -/
structure Concluded (m : Monitor) (task : Task) (url : String) (h : Host) : Prop where
  finished : h.phase = .finished (m.session task url).result
  monitor_eq : h.monitor = (m.session task url).monitor
  alerts_eq : h.alerts = (m.session task url).alerts
  /-- All frames are dispatched if all can be shown. -/
  all_dispatched : (m.start.monitor.showFrames task.frames).result = .ok () →
    h.dispatched = task.frames
  /-- Otherwise the frames are dispatched up to and with the one that cannot be shown. -/
  some_dispatched : ∀ e, (m.start.monitor.showFrames task.frames).result = .error e →
    ∃ before frame rest, task.frames = before ++ frame :: rest ∧
      h.dispatched = before ++ [frame] ∧
      (m.start.monitor.showFrames before).result = .ok () ∧
      ((m.start.monitor.showFrames before).monitor.showFrame frame).result = .error e
  /-- An error of the output comes before one of the run. -/
  output_first : ∀ e, (m.start.monitor.showFrames task.frames).result = .error e →
    h.phase = .finished (.error (.output e))
  run_next : ∀ after, m.start.monitor.showFrames task.frames = after → after.result = .ok () →
    h.phase = .finished
      (match after.monitor.drawLast.1, task.ending with
      | .error e, _ => .error (.output e)
      | .ok (), .error e => .error (.run url e)
      | .ok (), .ok () => .ok after.monitor.drawLast.2.board.view)

/-- The host has done what it does in sequence, as far as it has got. -/
def Faithful (m : Monitor) (task : Task) (url : String) (h : Host) : Prop :=
  match h.phase with
  | .receiving => m.start.monitor.Shows h.dispatched (.ok ()) h.monitor h.alerts
  | .holding _ => m.start.monitor.Shows h.dispatched (.ok ()) h.monitor h.alerts
  | .alerting texts => Midway m.start.monitor h texts
  | .drawing => Midway m.start.monitor h []
  | .leaving shown => Left m.start.monitor task h shown
  | .joining shown => Left m.start.monitor task h shown
  | .finished _ => Concluded m task url h

/-- Drawing completes a frame or shows that it cannot be completed. -/
theorem Midway.draw {first : Monitor} {h : Host} (midway : Midway first h []) :
    (h.monitor.draw.1 = .ok () ∧
      first.Shows h.dispatched (.ok ()) h.monitor.draw.2 h.alerts) ∨
    ∃ e, h.monitor.draw.1 = .error e ∧ Stopped first { h with monitor := h.monitor.draw.2 } e := by
  obtain ⟨before, frame, between, alerts, dispatched, shown, monitor, delivered⟩ := midway
  have result_eq : (between.showFrame frame).result = h.monitor.draw.1 := by
    rw [monitor]
    rfl
  have monitor_eq : (between.showFrame frame).monitor = h.monitor.draw.2 := by
    rw [monitor]
    rfl
  have alerts_eq : alerts ++ (between.showFrame frame).alerts = h.alerts := by
    rw [← List.append_nil h.alerts, delivered]
    rfl
  cases drawn : h.monitor.draw.1 with
  | ok _ =>
      have more := shown.append (Monitor.shows_singleton between frame)
      rw [result_eq, monitor_eq, alerts_eq, ← dispatched, drawn] at more
      exact Or.inl ⟨rfl, more⟩
  | error e =>
      refine Or.inr ⟨e, rfl, before, frame, between, alerts, dispatched, shown, ?_, monitor_eq,
        alerts_eq⟩
      rw [result_eq, drawn]

theorem concluded_of_shown {m : Monitor} {task : Task} {h : Host} (url : String)
    (left : Left m.start.monitor task h (.ok ())) :
    Concluded m task url (h.finish url (.ok ()) task.ending) := by
  obtain ⟨dispatched, shown⟩ := left
  obtain ⟨result, monitor, alerts⟩ := Monitor.session_of_shown url shown
  refine ⟨by rw [result]; rfl, by rw [monitor]; rfl, by rw [alerts]; rfl, ?_, ?_, ?_, ?_⟩
  · intro _
    exact dispatched
  · intro e failed
    cases shown.result_eq.symm.trans failed
  · intro e failed
    cases shown.result_eq.symm.trans failed
  · intro after same _
    subst same
    rw [shown.monitor_eq, Host.finish]
    simp only [Monitor.conclude]
    cases h.monitor.drawLast.1 <;> cases task.ending <;> rfl

theorem concluded_of_stopped {m : Monitor} {task : Task} {h : Host} (url : String)
    {e : OutputError} (stopped : Stopped m.start.monitor h e)
    (ordered : h.dispatched <+: task.frames) (outcome : Except RunError Unit) :
    Concluded m task url (h.finish url (.error e) outcome) := by
  obtain ⟨before, frame, between, alerts, dispatched, shown, failed, monitor, raised⟩ := stopped
  obtain ⟨rest, all⟩ := ordered
  rw [dispatched] at all
  have stop := shown.append (Monitor.shows_singleton between frame)
  rw [failed, monitor, raised] at stop
  have stop := stop.stop rest
  rw [all] at stop
  obtain ⟨result_eq, monitor_eq, alerts_eq⟩ := Monitor.session_of_stopped url stop
  refine ⟨by rw [result_eq]; rfl, by rw [monitor_eq]; rfl, by rw [alerts_eq]; rfl, ?_, ?_, ?_, ?_⟩
  · intro shownAll
    cases stop.result_eq.symm.trans shownAll
  · intro e' failed'
    refine ⟨before, frame, rest, by simpa using all.symm, dispatched, shown.result_eq, ?_⟩
    cases stop.result_eq.symm.trans failed'
    rw [shown.monitor_eq]
    exact failed
  · intro e' failed'
    cases stop.result_eq.symm.trans failed'
    rfl
  · intro after same shownAll
    subst same
    cases stop.result_eq.symm.trans shownAll

theorem Faithful.step {m : Monitor} {task : Task} {w after : World} (flow : Flow task w)
    (faithful : Faithful m task w.url w.host) (step : Step w after) :
    Faithful m task after.url after.host := by
  cases step with
  | post => exact faithful
  | giveUp => exact faithful
  | dropPort => exact faithful
  | exit => exact faithful
  | receive waiting received =>
      simp only [Faithful, waiting] at faithful ⊢
      exact faithful
  | hangUp waiting received =>
      obtain ⟨empty, dropped, rfl⟩ := of_receive_ended received
      have receiving : w.channel.receiving = true := by
        rw [flow.listens, waiting]
        rfl
      obtain ⟨all, _, queued⟩ := flow.kept receiving
      have complete : w.host.dispatched = task.frames := by
        rw [← all, flow.idle dropped, ← queued, waiting, empty]
        simp [Phase.held]
      simp only [Faithful, waiting] at faithful ⊢
      exact ⟨complete, complete ▸ faithful⟩
  | dispatch holding =>
      simp only [Faithful, holding] at faithful
      exact ⟨_, _, _, _, rfl, faithful, rfl, rfl⟩
  | deliver alerting =>
      simp only [Faithful, alerting] at faithful
      obtain ⟨before, frame, between, alerts, dispatched, shown, monitor, delivered⟩ := faithful
      refine ⟨before, frame, between, alerts, dispatched, shown, monitor, ?_⟩
      rw [List.append_nil]
      exact delivered
  | draw drawing =>
      simp only [Faithful, drawing] at faithful
      rcases faithful.draw with ⟨drawn, shown⟩ | ⟨e, drawn, stopped⟩
      · simp only [Host.draw, drawn]
        exact shown
      · simp only [Host.draw, drawn]
        exact stopped
  | dropReceiver leaving =>
      simp only [Faithful, leaving] at faithful ⊢
      exact faithful
  | @join shown joining gone =>
      obtain ⟨result, finished⟩ := phase_finish w.host w.url shown w.runner.ending
      simp only [Faithful, joining, finished] at faithful ⊢
      cases shown with
      | ok _ =>
          rw [(flow.ended (by rw [joining]; rfl)).2]
          exact concluded_of_shown w.url faithful
      | error e =>
          exact concluded_of_stopped w.url faithful (flow.in_order.trans flow.within) _

theorem Step.url_eq {w after : World} (step : Step w after) : after.url = w.url := by
  cases step <;> rfl

theorem flow_and_faithful {m : Monitor} {task : Task} {url : String} {w : World}
    (reached : Relation.ReflTransGen Step (.begin m task url) w) :
    w.url = url ∧ Flow task w ∧ Faithful m task w.url w.host := by
  induction reached with
  | refl => exact ⟨rfl, flow_begin m task url, Monitor.Shows.nil _⟩
  | tail _ step ih =>
      obtain ⟨same, flow, faithful⟩ := ih
      exact ⟨step.url_eq.trans same, flow.step step, faithful.step flow step⟩

/-- However the two parties take turns, the frames are dispatched in the order in which they are
posted, the run comes to an end, and the end is that of the session in sequence. -/
theorem session_independent_of_schedule {m : Monitor} {task : Task} {url : String} {w : World}
    (reached : Relation.ReflTransGen Step (.begin m task url) w) :
    (w.host.dispatched <+: w.runner.posted ∧ w.runner.posted <+: task.frames) ∧
      (WellFounded fun after before => Step before after) ∧
      (w.host.isFinished = false → ∃ after, Step w after) ∧
      (w.host.isFinished = true → Concluded m task url w.host ∧
        ((m.start.monitor.showFrames task.frames).result = .ok () →
          w.host.dispatched = w.runner.posted)) := by
  obtain ⟨rfl, flow, faithful⟩ := flow_and_faithful reached
  refine ⟨⟨flow.in_order, flow.within⟩, wellFounded_step, step_of_not_finished w, ?_⟩
  intro finished
  have posted (concluded : Concluded m task w.url w.host)
      (shown : (m.start.monitor.showFrames task.frames).result = .ok ()) :
      w.host.dispatched = w.runner.posted := by
    refine flow.in_order.eq_of_length_le ?_
    rw [concluded.all_dispatched shown]
    exact flow.within.length_le
  cases phase : w.host.phase with
  | finished result =>
      rw [Faithful, phase] at faithful
      exact ⟨faithful, posted faithful⟩
  | _ =>
      rw [Host.isFinished, phase] at finished
      cases finished

/-- The output takes one line and the second frame is posted before the first block is written.
That block fails, so the second frame is never dispatched. -/
theorem early_stop_concludes :
    let frames := [(Message.add "paper").toFrame, (Message.add "person").toFrame]
    ∃ w, Relation.ReflTransGen Step
        (.begin { output := { lines := .upTo 1 } } (.replay frames) "replay") w ∧
      w.host.dispatched = frames.take 1 ∧ w.runner.posted = frames ∧
      Concluded { output := { lines := .upTo 1 } } (.replay frames) "replay" w.host := by
  intro frames
  have reached := Relation.ReflTransGen.refl (r := Step)
    (a := .begin { output := { lines := .upTo 1 } } (.replay frames) "replay")
  have reached := reached.tail (.post rfl rfl rfl)
  have reached := reached.tail (.receive rfl rfl)
  have reached := reached.tail (.post rfl rfl rfl)
  have reached := reached.tail (.dispatch rfl)
  have reached := reached.tail (.deliver rfl)
  have reached := reached.tail (.draw rfl)
  have reached := reached.tail (.dropReceiver rfl)
  have reached := reached.tail (.dropPort rfl rfl)
  have reached := reached.tail (.exit rfl rfl)
  have reached := reached.tail (.join rfl rfl)
  exact ⟨_, reached, rfl, rfl, ((session_independent_of_schedule reached).2.2.2 rfl).1⟩

end Runboard.Schedule
