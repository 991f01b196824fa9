import Runboard.Proofs.Feed.Counting

set_option autoImplicit false

namespace Runboard

open SharedBar (Change changed)
open Counting (counters text)

theorem Channel.send_closed {c : Channel} (isClosed : c.receiving = false) (m : Message) :
    c.send m = .error .closed := by
  simp only [send, post, isClosed, Bool.false_eq_true, ↓reduceIte]

def Operation.changeOf? (index : Nat) : Operation → Option Change
  | .inc bar n => if bar = index then some (.inc n) else none
  | .setLength bar n => if bar = index then some (.setLength n) else none
  | _ => none

namespace Producer

inductive Event
  | call (op : Operation)
  /-- The receiving end takes a frame. -/
  | receive
  /-- The receiving end is dropped. -/
  | close
deriving DecidableEq, Repr

namespace Event

def isClose : Event → Bool
  | .close => true
  | _ => false

def bar? : Event → Option Nat
  | .call op => op.bar?
  | _ => none

def changeOf? (index : Nat) : Event → Option Change
  | .call op => op.changeOf? index
  | _ => none

end Event

def next (p : Producer) : Event → Producer
  | .call op => (p.perform op).1
  | .receive => { p with channel := p.channel.receive.2 }
  | .close => { p with channel := p.channel.closeReceiver }

def after (p : Producer) (events : List Event) : Producer := events.foldl next p

def changesOf (index : Nat) (events : List Event) : List Change :=
  events.filterMap (Event.changeOf? index)

theorem changesOf_cons (index : Nat) (event : Event) (rest : List Event) :
    changesOf index (event :: rest) = (event.changeOf? index).toList ++ changesOf index rest := by
  cases told : event.changeOf? index <;> simp [changesOf, told]

/-- The events before the receiving end is dropped. -/
def whileOpen (events : List Event) : List Event := events.takeWhile fun event => !event.isClose

/-- The other events, from the one on that drops it. -/
def onceClosed (events : List Event) : List Event := events.dropWhile fun event => !event.isClose

theorem changesOf_split (index : Nat) (events : List Event) :
    changesOf index events =
      changesOf index (whileOpen events) ++ changesOf index (onceClosed events) := by
  rw [changesOf, changesOf, changesOf, ← List.filterMap_append, whileOpen, onceClosed,
    List.takeWhile_append_dropWhile]

def posted (p : Producer) (event : Event) : List Json :=
  (p.next event).channel.queue.drop p.channel.queue.length

def counterIn? (frame : Json) : Option Counter :=
  match Message.ofFrame frame with
  | .ok (.update _ counter) => some counter
  | _ => none

def sent (index : Nat) : Producer → List Event → List Counter
  | _, [] => []
  | p, event :: rest =>
    (if event.bar? = some index then (p.posted event).filterMap counterIn? else []) ++
      sent index (p.next event) rest

/-- The counter that a bar has posted last. A bar that has posted none starts at zero. -/
def lastSent (index : Nat) (p : Producer) (events : List Event) : Counter :=
  (p.sent index events).getLast?.getD Counter.initial

variable {p : Producer} {index : Nat} {bar : Bar} {op : Operation}

/-- What the operations on a bar have in common. -/
theorem perform_eq_onBar (called : op.bar? = some index) (p : Producer) :
    p.perform op = p.onBar index fun bar channel =>
      (op.change bar, channel.send (message op (op.change bar))) := by
  cases op <;> cases called <;> rfl

theorem changeOf?_of_ne (elsewhere : op.bar? ≠ some index) : op.changeOf? index = none := by
  cases op <;> simp_all [Operation.bar?, Operation.changeOf?]

theorem change_eq_changed (called : op.bar? = some index) (bar : Bar) :
    op.change bar = changed bar (op.changeOf? index).toList := by
  cases op <;> cases called <;> simp [Operation.change, Operation.changeOf?, Change.apply]

theorem perform_of_unknown (called : op.bar? = some index) (unknown : p.bars[index]? = none) :
    p.perform op = (p, .ok ()) := by
  rw [perform_eq_onBar called, onBar, unknown]

/-- A bar has counted before it finds out that nobody listens. -/
theorem perform_refused (isClosed : p.channel.receiving = false) (called : op.bar? = some index)
    (started : p.bars[index]? = some bar) :
    p.perform op =
      ({ p with bars := p.bars.set index (op.change bar) }, .error .closed) := by
  simp only [perform_eq_onBar called, onBar, started, Channel.send_closed isClosed]

/-- An operation leaves the channel alone, or it posts one message and the channel is open. -/
theorem channel_perform (p : Producer) (op : Operation) :
    (p.perform op).1.channel = p.channel ∨
      p.channel.receiving = true ∧ ∃ m : Message, (p.perform op).1.channel =
        { p.channel with queue := p.channel.queue ++ [m.toFrame] } := by
  cases called : op.bar? with
  | some index =>
      cases started : p.bars[index]? with
      | none => exact Or.inl (by rw [perform_of_unknown called started])
      | some bar =>
          cases listens : p.channel.receiving with
          | true => exact Or.inr ⟨rfl, _, by rw [perform_onBar listens called started]⟩
          | false => exact Or.inl (by rw [perform_refused listens called started])
  | none =>
      cases listens : p.channel.receiving with
      | true =>
          refine Or.inr ⟨rfl, ?_⟩
          cases op with
          | addBar name => exact ⟨_, by rw [perform_addBar listens]⟩
          | reportProblems items isFinal => exact ⟨_, by rw [perform_reportProblems listens]⟩
          | _ => cases called
      | false =>
          apply Or.inl
          cases op with
          | addBar name =>
              simp only [perform, Bar.start, Channel.send_closed listens, bind, Except.bind]
          | reportProblems items isFinal =>
              simp only [perform, Channel.reportProblems, Channel.send_closed listens]
          | _ => cases called

theorem bars_perform (called : op.bar? = some index) (started : p.bars[index]? = some bar) :
    (p.perform op).1.bars = p.bars.set index (op.change bar) := by
  cases listens : p.channel.receiving with
  | true => rw [perform_onBar listens called started]
  | false => rw [perform_refused listens called started]

/-- The bars that are there stay, and what changes them is called on them. -/
theorem getElem?_perform (started : p.bars[index]? = some bar) (op : Operation) :
    (p.perform op).1.bars[index]? = some (changed bar (op.changeOf? index).toList) := by
  have inside : index < p.bars.length := (List.getElem?_eq_some_iff.mp started).1
  by_cases called : op.bar? = some index
  · rw [bars_perform called started, List.getElem?_set_self inside, change_eq_changed called]
  · rw [changeOf?_of_ne called, Option.toList_none, SharedBar.changed_nil]
    cases elsewhere : op.bar? with
    | some other =>
        cases there : p.bars[other]? with
        | none => rw [perform_of_unknown elsewhere there, started]
        | some otherBar =>
            have apart : other ≠ index := fun same => called (same ▸ elsewhere)
            rw [bars_perform elsewhere there, List.getElem?_set_ne apart, started]
    | none =>
        cases op with
        | addBar name =>
            rw [perform]
            split
            · rw [List.getElem?_append_left inside, started]
            · exact started
        | reportProblems items isFinal =>
            rw [perform]
            split <;> exact started
        | _ => cases elsewhere

theorem getElem?_next (started : p.bars[index]? = some bar) (event : Event) :
    (p.next event).bars[index]? = some (changed bar (event.changeOf? index).toList) := by
  cases event with
  | call op => exact getElem?_perform started op
  | receive => exact started
  | close => exact started

/-- A bar has made all changes that it was called for. -/
theorem getElem?_after (started : p.bars[index]? = some bar) (events : List Event) :
    (p.after events).bars[index]? = some (changed bar (changesOf index events)) := by
  induction events generalizing p bar with
  | nil => exact started
  | cons event rest ih =>
      rw [changesOf_cons, SharedBar.changed_append]
      exact ih (getElem?_next started event)

/-- Only the receiving end can close the channel. -/
theorem receiving_next (p : Producer) (event : Event) :
    (p.next event).channel.receiving = (p.channel.receiving && !event.isClose) := by
  cases event with
  | call op =>
      have kept : (p.perform op).1.channel.receiving = p.channel.receiving := by
        rcases channel_perform p op with same | ⟨_, m, more⟩
        · rw [same]
        · rw [more]
      rw [next, kept]
      exact (Bool.and_true _).symm
  | receive =>
      have kept : p.channel.receive.2.receiving = p.channel.receiving := by
        unfold Channel.receive
        split <;> rfl
      rw [next, kept]
      exact (Bool.and_true _).symm
  | close => exact (Bool.and_false _).symm

theorem receiving_after (p : Producer) (events : List Event) :
    (p.after events).channel.receiving = (p.channel.receiving && !events.any Event.isClose) := by
  induction events generalizing p with
  | nil => exact (Bool.and_true _).symm
  | cons event rest ih =>
      rw [after, List.foldl_cons, ← after, ih, receiving_next, List.any_cons, Bool.not_or,
        Bool.and_assoc]

/-- What a call on a bar posts as long as somebody listens. -/
theorem posted_call (isOpen : p.channel.receiving = true) (called : op.bar? = some index)
    (started : p.bars[index]? = some bar) :
    (p.posted (.call op)).filterMap counterIn? = counters bar (op.changeOf? index).toList := by
  have queue : p.posted (.call op) = [(message op (op.change bar)).toFrame] := by
    rw [posted, next, perform_onBar isOpen called started, List.drop_left]
  rw [queue]
  cases op <;> cases called <;>
    simp [counterIn?, Message.ofFrame_toFrame, message, Operation.change, Operation.changeOf?,
      counters, Bar.counterMessage, Change.apply]

/-- Nothing is posted once nobody listens. -/
theorem posted_of_closed (isClosed : p.channel.receiving = false) (event : Event) :
    p.posted event = [] := by
  cases event with
  | call op =>
      rcases channel_perform p op with same | ⟨isOpen, _⟩
      · rw [posted, next, same, List.drop_length]
      · rw [isClosed] at isOpen
        cases isOpen
  | receive =>
      have shorter : p.channel.receive.2.queue.length ≤ p.channel.queue.length := by
        unfold Channel.receive
        split <;> simp_all
      exact List.drop_of_length_le shorter
  | close => exact List.drop_nil

theorem sent_of_closed (isClosed : p.channel.receiving = false) (index : Nat)
    (events : List Event) : p.sent index events = [] := by
  induction events generalizing p with
  | nil => rfl
  | cons event rest ih =>
      have still : (p.next event).channel.receiving = false := by
        rw [receiving_next, isClosed, Bool.false_and]
      rw [sent, posted_of_closed isClosed, ih still]
      simp

theorem posted_of_open (isOpen : p.channel.receiving = true)
    (started : p.bars[index]? = some bar) (event : Event) :
    (if event.bar? = some index then (p.posted event).filterMap counterIn? else []) =
      counters bar (event.changeOf? index).toList := by
  cases event with
  | call op =>
      by_cases called : op.bar? = some index
      · rw [Event.bar?, if_pos called, posted_call isOpen called started]
        rfl
      · rw [Event.bar?, if_neg called, Event.changeOf?, changeOf?_of_ne called]
        rfl
  | receive => rfl
  | close => rfl

/-- What a bar has posted are the counters it had while somebody listened. -/
theorem sent_of_open (isOpen : p.channel.receiving = true) (started : p.bars[index]? = some bar)
    (events : List Event) :
    p.sent index events = counters bar (changesOf index (whileOpen events)) := by
  induction events generalizing p bar with
  | nil => rfl
  | cons event rest ih =>
      have goesOn := receiving_next p event
      rw [sent, posted_of_open isOpen started]
      cases closing : event.isClose with
      | true =>
          have isClosed : (p.next event).channel.receiving = false := by
            rw [goesOn, closing, Bool.not_true, Bool.and_false]
          have ends : event = .close := by
            cases event with
            | close => rfl
            | call op => cases closing
            | receive => cases closing
          rw [sent_of_closed isClosed, ends]
          rfl
      | false =>
          have stillOpen : (p.next event).channel.receiving = true := by
            rw [goesOn, isOpen, closing]
            rfl
          have more : whileOpen (event :: rest) = event :: whileOpen rest := by
            simp [whileOpen, closing]
          rw [ih stillOpen (getElem?_next started event), more, changesOf_cons,
            Counting.counters_append]

/-- What a new bar has posted last is the sum of what it was told while somebody listened. -/
theorem lastSent_of_open (isOpen : p.channel.receiving = true) {name : String}
    (started : p.bars[index]? = some { name }) (events : List Event) :
    p.lastSent index events = ⟨text (changesOf index (whileOpen events))⟩ := by
  rw [lastSent, sent_of_open isOpen started, Counting.getLast?_counters]
  split
  · rename_i nothing
    rw [nothing]
    decide
  · rw [Counting.counter_changed, Option.getD_some]

theorem result_perform (called : op.bar? = some index) (started : p.bars[index]? = some bar) :
    (p.perform op).2 = if p.channel.receiving then .ok () else .error .closed := by
  cases listens : p.channel.receiving with
  | true =>
      rw [perform_onBar listens called started]
      rfl
  | false =>
      rw [perform_refused listens called started]
      rfl

/-- A bar that is started over an open channel counts every call on it, also those that are
refused. Calls are refused from the moment on at which the receiving end is dropped, and what was
posted last is the counter of the calls before that. So the counter of a bar is the one that was
posted last if nothing was counted and no length set after the end. -/
theorem counter_and_last_posted (isOpen : p.channel.receiving = true) (name : String)
    (events : List Event) :
    let index := p.bars.length
    let start := (p.perform (.addBar name)).1
    ∃ bar, (start.after events).bars[index]? = some bar ∧
      bar.counter = ⟨text (changesOf index events)⟩ ∧
      start.lastSent index events = ⟨text (changesOf index (whileOpen events))⟩ ∧
      (∀ op : Operation, op.bar? = some index → ((start.after events).perform op).2 =
        if events.any Event.isClose then .error .closed else .ok ()) ∧
      (changesOf index (onceClosed events) = [] →
        bar.counter = start.lastSent index events) := by
  intro index start
  have started : start.bars[index]? = some { name } := by
    simp only [start, index, perform_addBar isOpen, List.getElem?_concat_length]
  have listens : start.channel.receiving = true := by
    simp only [start, perform_addBar isOpen, isOpen]
  have now := getElem?_after started events
  have shown := Counting.counter_changed name (changesOf index events)
  have last := lastSent_of_open listens started events
  refine ⟨_, now, shown, last, ?_, ?_⟩
  · intro op called
    rw [result_perform called now, receiving_after, listens, Bool.true_and]
    cases events.any Event.isClose <;> rfl
  · intro nothing
    rw [shown, last, changesOf_split, nothing, List.append_nil]

/-- A comment may be refused without harm, and so may a call on another bar. -/
theorem counter_and_last_posted_elsewhere :
    let start := (({} : Producer).perform (.addBar "paper")).1
    let events : List Event := [.call (.addBar "person"), .call (.inc 0 3), .receive,
      .call (.setLength 0 5), .close, .call (.setMessage 0 "late"), .call (.inc 1 2)]
    ∃ bar, (start.after events).bars[0]? = some bar ∧
      bar.counter = ⟨"3/5"⟩ ∧ start.lastSent 0 events = ⟨"3/5"⟩ := by
  intro start events
  have isOpen : ({} : Producer).channel.receiving = true := rfl
  obtain ⟨bar, here, shown, last, _, _⟩ := counter_and_last_posted isOpen "paper" events
  have all : text (changesOf 0 events) = "3/5" := by decide
  have early : text (changesOf 0 (whileOpen events)) = "3/5" := by decide
  exact ⟨bar, here, shown.trans (congrArg Counter.mk all), last.trans (congrArg Counter.mk early)⟩

/-- The channel is closed after one has been counted and posted. The next call is refused, but the
bar shows three, which it has never posted. -/
theorem refused_call_is_counted :
    let start := (({} : Producer).perform (.addBar "paper")).1
    let closed := start.after [.call (.inc 0 1), .close]
    let events : List Event := [.call (.inc 0 1), .close, .call (.inc 0 2)]
    (closed.perform (.inc 0 2)).2 = .error .closed ∧
      closed.bars[0]?.map Bar.counter = some ⟨"1"⟩ ∧
      (start.after events).bars[0]?.map Bar.counter = some ⟨"3"⟩ ∧
      start.lastSent 0 events = ⟨"1"⟩ :=
  ⟨rfl, rfl, rfl, rfl⟩

end Producer

end Runboard
