import Mathlib.Data.List.Nodup
import Runboard.Proofs.Feed.Producer

set_option autoImplicit false

/-!
Calls that share a bar.

A call changes the bar and takes its counter while it holds the bar, and posts the counter only
after it has let go of it. Calls that run side by side therefore change the bar one after another,
but they need not post in that order. `World.run` takes the two steps of any number of calls in any
order. Every counter that the bar has had is posted once; the one that is posted last is the
counter of the bar if the call that counted last also posts last, and it can be an old one if not.
-/

namespace Runboard

namespace Board

variable {b : Board} {name : String} {row : Row}

theorem row?_accept_update (stands : b.row? name = some row) (counter : Counter) :
    (b.accept (.update name counter)).board.row? name = some (row.setCounter counter) := by
  obtain ⟨index, found, here⟩ := Option.bind_eq_some_iff.mp stands
  have target : (Message.update name counter).target? = some name := rfl
  rw [accept_of_applied (Applied.edit target found)]
  simp [row?, Message.kind, found, here, Message.edit]

/-- Of many updates of a row the last one shows. -/
theorem row?_dispatchAll_updates (stands : b.row? name = some row) (counters : List Counter)
    (last : Counter) :
    (b.dispatchAll ((counters ++ [last]).map fun counter =>
      (Message.update name counter).toFrame)).board.row? name = some (row.setCounter last) := by
  induction counters generalizing b row with
  | nil =>
      simp only [List.nil_append, List.map_cons, List.map_nil, dispatchAll, dispatch_toFrame]
      exact row?_accept_update stands last
  | cons counter counters ih =>
      simp only [List.cons_append, List.map_cons, dispatchAll, dispatch_toFrame]
      have rest := ih (row?_accept_update stands counter)
      exact rest

end Board

namespace SharedBar

inductive Change
  | inc (n : Nat)
  | setLength (n : Nat)
deriving DecidableEq, Repr

namespace Change

def apply : Change → Bar → Bar
  | .inc n, bar => bar.advance n
  | .setLength n, bar => bar.withLength n

/-- The call without anything in between. -/
def call : Change → Bar → Channel → Bar × Except ChannelError Channel
  | .inc n, bar, channel => bar.inc n channel
  | .setLength n, bar, channel => bar.setLength n channel

@[simp] theorem name_apply (change : Change) (bar : Bar) : (change.apply bar).name = bar.name := by
  cases change <;> rfl

theorem call_eq (change : Change) (bar : Bar) (channel : Channel) :
    change.call bar channel =
      (change.apply bar, channel.send (change.apply bar).counterMessage) := by
  cases change <;> rfl

end Change

def changed (bar : Bar) (changes : List Change) : Bar :=
  changes.foldl (fun bar change => change.apply bar) bar

@[simp] theorem changed_nil (bar : Bar) : changed bar [] = bar := rfl

@[simp] theorem changed_cons (bar : Bar) (change : Change) (rest : List Change) :
    changed bar (change :: rest) = changed (change.apply bar) rest := rfl

theorem changed_append (bar : Bar) (first second : List Change) :
    changed bar (first ++ second) = changed (changed bar first) second :=
  List.foldl_append

theorem name_changed (bar : Bar) (changes : List Change) :
    (changed bar changes).name = bar.name := by
  induction changes generalizing bar with
  | nil => rfl
  | cons change rest ih => rw [changed_cons, ih, Change.name_apply]

def frame (name : String) (counter : Counter) : Json := (Message.update name counter).toFrame

inductive Stage
  | called (change : Change)
  /-- It has changed the bar and let go of it. -/
  | counted (counter : Counter)
  | returned (result : Except ChannelError Unit)

def Stage.isReturned : Stage → Bool
  | .returned _ => true
  | _ => false

structure World where
  bar : Bar
  channel : Channel
  calls : List Stage

inductive Action
  | count (call : Nat)
  | post (call : Nat)
deriving DecidableEq, Repr

namespace World

/-- All calls have just been made. -/
def begin (bar : Bar) (channel : Channel) (changes : List Change) : World :=
  { bar, channel, calls := changes.map .called }

/-- One step of one call, if this is the step it is to take next. -/
def step (w : World) : Action → Option World
  | .count call =>
    match w.calls[call]? with
    | some (.called change) =>
      let bar := change.apply w.bar
      some { w with bar, calls := w.calls.set call (.counted bar.counter) }
    | _ => none
  | .post call =>
    match w.calls[call]? with
    | some (.counted counter) =>
      match w.channel.send (.update w.bar.name counter) with
      | .ok channel => some { w with channel, calls := w.calls.set call (.returned (.ok ())) }
      | .error e => some { w with calls := w.calls.set call (.returned (.error e)) }
    | _ => none

def run (w : World) : List Action → Option World
  | [] => some w
  | action :: rest => (w.step action).bind (·.run rest)

def isOver (w : World) : Bool := w.calls.all Stage.isReturned

variable {w after : World}

/-- Two steps of one call with nothing in between are the whole call. -/
theorem run_uninterrupted {call : Nat} {change : Change} {channel : Channel}
    (made : w.calls[call]? = some (.called change))
    (posted : (change.call w.bar w.channel).2 = .ok channel) :
    w.run [.count call, .post call] = some
      { bar := (change.call w.bar w.channel).1
        channel
        calls := w.calls.set call (.returned (.ok ())) } := by
  have inside : call < w.calls.length := (List.getElem?_eq_some_iff.mp made).1
  rw [Change.call_eq] at posted ⊢
  have sent : w.channel.send (.update (change.apply w.bar).name (change.apply w.bar).counter) =
      .ok channel := posted
  simp only [run, step, made, Option.bind_some, List.getElem?_set_self inside, sent, List.set_set]

/-- What one step does while the channel is open. -/
theorem step_cases (isOpen : w.channel.receiving = true) {action : Action}
    (stepped : w.step action = some after) :
    (∃ call change, action = .count call ∧ w.calls[call]? = some (.called change) ∧
      after = { w with
        bar := change.apply w.bar
        calls := w.calls.set call (.counted (change.apply w.bar).counter) }) ∨
    (∃ call counter, action = .post call ∧ w.calls[call]? = some (.counted counter) ∧
      after = { w with
        channel := { w.channel with
          queue := w.channel.queue ++ [(Message.update w.bar.name counter).toFrame] }
        calls := w.calls.set call (.returned (.ok ())) }) := by
  cases action with
  | count call =>
      simp only [step] at stepped
      split at stepped
      · rename_i change made
        cases stepped
        exact Or.inl ⟨call, change, rfl, made, rfl⟩
      · cases stepped
  | post call =>
      simp only [step, Channel.send_open isOpen] at stepped
      split at stepped
      · rename_i counter counted
        cases stepped
        exact Or.inr ⟨call, counter, rfl, counted, rfl⟩
      · cases stepped

end World

def counts (actions : List Action) : List Nat :=
  actions.filterMap fun
    | .count call => some call
    | .post _ => none

def posts (actions : List Action) : List Nat :=
  actions.filterMap fun
    | .count _ => none
    | .post call => some call

@[simp] theorem counts_count (done : List Action) (call : Nat) :
    counts (done ++ [.count call]) = counts done ++ [call] := by simp [counts]

@[simp] theorem counts_post (done : List Action) (call : Nat) :
    counts (done ++ [.post call]) = counts done := by simp [counts]

@[simp] theorem posts_count (done : List Action) (call : Nat) :
    posts (done ++ [.count call]) = posts done := by simp [posts]

@[simp] theorem posts_post (done : List Action) (call : Nat) :
    posts (done ++ [.post call]) = posts done ++ [call] := by simp [posts]

/-- The calls that counted before a call, and the call. -/
def upTo (order : List Nat) (call : Nat) : List Nat := order.takeWhile (· != call) ++ [call]

theorem upTo_concat_of_mem {order : List Nat} {call : Nat} (member : call ∈ order) (last : Nat) :
    upTo (order ++ [last]) call = upTo order call := by
  rw [upTo, upTo, List.takeWhile_append, if_neg]
  intro whole
  have kept := List.takeWhile_sublist (· != call) |>.eq_of_length whole
  have differs := List.all_takeWhile (p := (· != call)) (l := order)
  rw [kept] at differs
  simpa using List.all_eq_true.mp differs call member

theorem upTo_concat_self {order : List Nat} {call : Nat} (fresh : call ∉ order) :
    upTo (order ++ [call]) call = order ++ [call] := by
  have others : ∀ other ∈ order, (other != call) = true := by
    intro other member
    simp only [bne_iff_ne]
    rintro rfl
    exact fresh member
  rw [upTo, List.takeWhile_append_of_pos others]
  simp

section Trace

variable (bar : Bar) (channel : Channel) (changes : List Change)

/-- The bar after calls have counted in the given order. -/
def changedBy (order : List Nat) : Bar := changed bar (order.filterMap (changes[·]?))

/-- The counter of the bar when a call has just counted. -/
def counterAt (order : List Nat) (call : Nat) : Counter :=
  (changedBy bar changes (upTo order call)).counter

def frameOf (order : List Nat) (call : Nat) : Json :=
  frame bar.name (counterAt bar changes order call)

/-- Where a call is after some actions. -/
def stageOf (done : List Action) (call : Nat) (change : Change) : Stage :=
  if call ∈ posts done then .returned (.ok ())
  else if call ∈ counts done then .counted (counterAt bar changes (counts done) call)
  else .called change

/-- What is known of a world from the actions that led to it. -/
structure Traced (done : List Action) (w : World) : Prop where
  isOpen : w.channel.receiving = true
  bar_eq : w.bar = changedBy bar changes (counts done)
  queue_eq : w.channel.queue =
    channel.queue ++ (posts done).map (frameOf bar changes (counts done))
  calls_eq : w.calls = changes.mapIdx (stageOf bar changes done)
  counted_once : (counts done).Nodup
  posted_once : (posts done).Nodup
  counted_first : ∀ call ∈ posts done, call ∈ counts done
  made : ∀ call ∈ counts done, call < changes.length

variable {bar channel changes}

theorem changedBy_concat {call : Nat} {change : Change} (made : changes[call]? = some change)
    (order : List Nat) :
    changedBy bar changes (order ++ [call]) = change.apply (changedBy bar changes order) := by
  rw [changedBy, List.filterMap_append, changed_append]
  simp [made, changedBy]

theorem counterAt_concat_of_mem {order : List Nat} {call : Nat} (member : call ∈ order)
    (last : Nat) :
    counterAt bar changes (order ++ [last]) call = counterAt bar changes order call := by
  rw [counterAt, upTo_concat_of_mem member, counterAt]

theorem counterAt_concat_self {order : List Nat} {call : Nat} (fresh : call ∉ order) :
    counterAt bar changes (order ++ [call]) call =
      (changedBy bar changes (order ++ [call])).counter := by
  rw [counterAt, upTo_concat_self fresh]

theorem traced_begin (isOpen : channel.receiving = true) :
    Traced bar channel changes [] (World.begin bar channel changes) := by
  refine ⟨isOpen, rfl, (List.append_nil _).symm, ?_, .nil, .nil, nofun, nofun⟩
  apply List.ext_getElem?
  intro call
  have untouched : stageOf bar changes [] call = .called :=
    funext fun change => by simp [stageOf, counts, posts]
  simp [World.begin, untouched]

/-- A step changes the stage of one call. -/
theorem set_mapIdx {old new : Nat → Change → Stage} {call : Nat} {change : Change}
    (here : changes[call]? = some change)
    (others : ∀ other, other ≠ call → new other = old other) :
    (changes.mapIdx old).set call (new call change) = changes.mapIdx new := by
  apply List.ext_getElem?
  intro other
  rw [List.getElem?_set, List.getElem?_mapIdx, List.getElem?_mapIdx, List.length_mapIdx]
  by_cases same : call = other
  · subst same
    rw [if_pos rfl, if_pos (List.getElem?_eq_some_iff.mp here).1, here, Option.map_some]
  · rw [if_neg same, others other (Ne.symm same)]

variable {done : List Action} {w after : World}

theorem Traced.stage_eq (traced : Traced bar channel changes done w) {call : Nat} {stage : Stage}
    (now : w.calls[call]? = some stage) :
    ∃ change, changes[call]? = some change ∧ stageOf bar changes done call change = stage := by
  rw [traced.calls_eq, List.getElem?_mapIdx] at now
  exact Option.map_eq_some_iff.mp now

theorem Traced.count (traced : Traced bar channel changes done w) {call : Nat} {change : Change}
    (called : w.calls[call]? = some (.called change)) :
    Traced bar channel changes (done ++ [.count call])
      { w with
        bar := change.apply w.bar
        calls := w.calls.set call (.counted (change.apply w.bar).counter) } := by
  obtain ⟨change', here, stage⟩ := traced.stage_eq called
  have fresh : call ∉ counts done := by
    intro member
    simp only [stageOf, member, ↓reduceIte] at stage
    split at stage <;> cases stage
  have unposted : call ∉ posts done := fun member => fresh (traced.counted_first call member)
  simp only [stageOf, fresh, unposted, ↓reduceIte, Stage.called.injEq] at stage
  subst stage
  have bar_eq : change'.apply w.bar = changedBy bar changes (counts done ++ [call]) := by
    rw [changedBy_concat here, traced.bar_eq]
  refine ⟨traced.isOpen, ?_, ?_, ?_, ?_, ?_, ?_, ?_⟩
  · rw [counts_count]
    exact bar_eq
  · rw [counts_count, posts_count]
    refine traced.queue_eq.trans (congrArg (channel.queue ++ ·) (List.map_congr_left ?_))
    intro other posted
    rw [frameOf, frameOf, counterAt_concat_of_mem (traced.counted_first other posted)]
  · have moved : stageOf bar changes (done ++ [.count call]) call change' =
        .counted (change'.apply w.bar).counter := by
      simp [stageOf, unposted, counterAt_concat_self fresh, bar_eq]
    dsimp only
    rw [traced.calls_eq, ← moved]
    refine set_mapIdx here fun other apart => funext fun _ => ?_
    by_cases counted : other ∈ counts done
    · simp [stageOf, counted, counterAt_concat_of_mem counted]
    · simp [stageOf, counted, apart]
  · rw [counts_count, ← List.concat_eq_append]
    exact List.Nodup.concat fresh traced.counted_once
  · rw [posts_count]
    exact traced.posted_once
  · intro other posted
    rw [posts_count] at posted
    rw [counts_count]
    exact List.mem_append_left _ (traced.counted_first other posted)
  · intro other counted
    rw [counts_count] at counted
    rcases List.mem_append.mp counted with earlier | last
    · exact traced.made other earlier
    · cases List.mem_singleton.mp last
      exact (List.getElem?_eq_some_iff.mp here).1

theorem Traced.post (traced : Traced bar channel changes done w) {call : Nat} {counter : Counter}
    (counted : w.calls[call]? = some (.counted counter)) :
    Traced bar channel changes (done ++ [.post call])
      { w with
        channel := { w.channel with
          queue := w.channel.queue ++ [(Message.update w.bar.name counter).toFrame] }
        calls := w.calls.set call (.returned (.ok ())) } := by
  obtain ⟨change, here, stage⟩ := traced.stage_eq counted
  have unposted : call ∉ posts done := by
    intro member
    simp [stageOf, member] at stage
  have member : call ∈ counts done := by
    refine Decidable.byContradiction fun fresh => ?_
    simp [stageOf, unposted, fresh] at stage
  simp only [stageOf, unposted, member, ↓reduceIte, Stage.counted.injEq] at stage
  refine ⟨traced.isOpen, ?_, ?_, ?_, ?_, ?_, ?_, ?_⟩
  · rw [counts_post]
    exact traced.bar_eq
  · rw [counts_post, posts_post, List.map_append, ← List.append_assoc, ← traced.queue_eq,
      traced.bar_eq, changedBy, name_changed, ← stage]
    rfl
  · have moved : stageOf bar changes (done ++ [.post call]) call change = .returned (.ok ()) := by
      simp [stageOf]
    dsimp only
    rw [traced.calls_eq, ← moved]
    refine set_mapIdx here fun other apart => funext fun _ => ?_
    simp [stageOf, apart]
  · rw [counts_post]
    exact traced.counted_once
  · rw [posts_post, ← List.concat_eq_append]
    exact List.Nodup.concat unposted traced.posted_once
  · intro other posted
    rw [posts_post] at posted
    rw [counts_post]
    rcases List.mem_append.mp posted with earlier | last
    · exact traced.counted_first other earlier
    · exact List.mem_singleton.mp last ▸ member
  · rw [counts_post]
    exact traced.made

theorem Traced.step (traced : Traced bar channel changes done w) {action : Action}
    (stepped : w.step action = some after) :
    Traced bar channel changes (done ++ [action]) after := by
  obtain ⟨call, change, rfl, called, rfl⟩ | ⟨call, counter, rfl, counted, rfl⟩ :=
    World.step_cases traced.isOpen stepped
  · exact traced.count called
  · exact traced.post counted

theorem Traced.run (traced : Traced bar channel changes done w) {actions : List Action}
    (ran : w.run actions = some after) :
    Traced bar channel changes (done ++ actions) after := by
  induction actions generalizing done w with
  | nil =>
      cases ran
      rwa [List.append_nil]
  | cons action rest ih =>
      obtain ⟨between, stepped, ran⟩ := Option.bind_eq_some_iff.mp ran
      have next := ih (traced.step stepped) ran
      rwa [List.append_assoc] at next

/-- When all calls have returned, each of them has posted. -/
theorem Traced.mem_posts_iff (traced : Traced bar channel changes done w)
    (isOver : w.isOver = true) (call : Nat) : call ∈ posts done ↔ call < changes.length := by
  constructor
  · intro posted
    exact traced.made call (traced.counted_first call posted)
  · intro inside
    have here : w.calls[call]? = some (stageOf bar changes done call changes[call]) := by
      rw [traced.calls_eq, List.getElem?_mapIdx, List.getElem?_eq_getElem inside, Option.map_some]
    have returned := List.all_eq_true.mp isOver _ (List.mem_of_getElem? here)
    refine Decidable.byContradiction fun unposted => ?_
    simp only [stageOf, unposted, ↓reduceIte] at returned
    split at returned <;> cases returned

/-- The call that counted last knows the counter of the bar. -/
theorem Traced.counterAt_last (traced : Traced bar channel changes done w) {call : Nat}
    (last : (counts done).getLast? = some call) :
    counterAt bar changes (counts done) call = w.bar.counter := by
  obtain ⟨before, split⟩ := List.getLast?_eq_some_iff.mp last
  have fresh : call ∉ before := by
    have once := traced.counted_once
    rw [split, List.nodup_append] at once
    exact fun member => once.2.2 call member call (List.mem_singleton_self call) rfl
  rw [traced.bar_eq, split, counterAt_concat_self fresh]

end Trace

/-- Calls that share a bar all return, whatever the order of their steps. They change the bar one
after another, each posts once, and what a call posts is the counter that the bar had when it
counted. If the call that counts last also posts last, then the last update is the counter of the
bar, and so a row under the name of the bar shows it. -/
theorem interleaved_calls {bar : Bar} {channel : Channel} {changes : List Change}
    {actions : List Action} {w : World} (isOpen : channel.receiving = true)
    (ran : (World.begin bar channel changes).run actions = some w) (isOver : w.isOver = true) :
    (∀ stage ∈ w.calls, stage = .returned (.ok ())) ∧
      (counts actions).Perm (List.range changes.length) ∧
      (posts actions).Perm (List.range changes.length) ∧
      w.bar = changedBy bar changes (counts actions) ∧
      w.channel.queue =
        channel.queue ++ (posts actions).map (frameOf bar changes (counts actions)) ∧
      ∀ last, (counts actions).getLast? = some last → (posts actions).getLast? = some last →
        w.channel.queue.getLast? = some w.bar.counterMessage.toFrame ∧
        ∀ (b : Board) (row : Row), b.row? bar.name = some row →
          (b.dispatchAll (w.channel.queue.drop channel.queue.length)).board.row? bar.name =
            some (row.setCounter w.bar.counter) := by
  have traced := (traced_begin isOpen).run ran
  rw [List.nil_append] at traced
  have posted := traced.mem_posts_iff isOver
  have counted (call : Nat) : call ∈ counts actions ↔ call < changes.length :=
    ⟨traced.made call, fun inside => traced.counted_first call ((posted call).mpr inside)⟩
  refine ⟨?_, ?_, ?_, traced.bar_eq, traced.queue_eq, ?_⟩
  · intro stage member
    rw [traced.calls_eq] at member
    obtain ⟨call, inside, rfl⟩ := List.mem_mapIdx.mp member
    rw [stageOf, if_pos ((posted call).mpr inside)]
  · exact (List.perm_ext_iff_of_nodup traced.counted_once List.nodup_range).mpr
      fun call => (counted call).trans List.mem_range.symm
  · exact (List.perm_ext_iff_of_nodup traced.posted_once List.nodup_range).mpr
      fun call => (posted call).trans List.mem_range.symm
  · intro last lastCount lastPost
    obtain ⟨before, split⟩ := List.getLast?_eq_some_iff.mp lastPost
    have counter := traced.counterAt_last lastCount
    have newest : frameOf bar changes (counts actions) last = w.bar.counterMessage.toFrame := by
      rw [frameOf, frame, counter, Bar.counterMessage, traced.bar_eq, changedBy, name_changed]
    constructor
    · rw [traced.queue_eq, split, List.map_append, List.map_singleton, newest,
        ← List.append_assoc, List.getLast?_concat]
    · intro b row stands
      have updates : w.channel.queue.drop channel.queue.length =
          (before.map (counterAt bar changes (counts actions)) ++ [w.bar.counter]).map
            fun counter => (Message.update bar.name counter).toFrame := by
        rw [traced.queue_eq, List.drop_left, split, ← counter]
        simp [frameOf, frame, Function.comp_def]
      rw [updates]
      exact Board.row?_dispatchAll_updates stands _ _

/-- Three calls: one is overtaken twice, but the last to count is the last to post. -/
theorem interleaved_calls_overtaken :
    let b := (Board.empty {}).addRow "paper"
    let posted (count : Nat) : Json := (Bar.mk "paper" count (some 5)).counterMessage.toFrame
    let w : World :=
      { bar := ⟨"paper", 3, some 5⟩
        channel := { queue := [posted 1, posted 0, posted 3] }
        calls := List.replicate 3 (.returned (.ok ())) }
    (World.begin { name := "paper" } {} [.inc 1, .setLength 5, .inc 2]).run
        [.count 1, .count 0, .post 0, .count 2, .post 1, .post 2] = some w ∧
      (b.dispatchAll w.channel.queue).board.row? "paper" =
        some ((Row.create "paper").setCounter ⟨"3/5"⟩) := by
  intro b posted w
  have ran : (World.begin { name := "paper" } {} [.inc 1, .setLength 5, .inc 2]).run
      [.count 1, .count 0, .post 0, .count 2, .post 1, .post 2] = some w := rfl
  have counter : w.bar.counter = ⟨"3/5"⟩ := by decide +kernel
  have outcome := interleaved_calls rfl ran rfl
  rw [← counter]
  exact ⟨ran, (outcome.2.2.2.2.2 2 rfl rfl).2 b (Row.create "paper") rfl⟩

/-- Two calls count one each, and the one that counted first posts last: the bar has counted two
and its row shows one. It comes to the same if the calls are made one after the other and the
update of the first is taken out of the channel and posted again after the second. -/
theorem overtaken_call_posts_last :
    let b := (Board.empty {}).addRow "paper"
    let w : World :=
      { bar := { name := "paper", count := 2 }
        channel := { queue := ["2", "1"].map fun text =>
          (Message.update "paper" ⟨text⟩).toFrame }
        calls := List.replicate 2 (.returned (.ok ())) }
    (World.begin { name := "paper" } {} [.inc 1, .inc 1]).run
        [.count 0, .count 1, .post 1, .post 0] = some w ∧
      w.bar.counter = ⟨"2"⟩ ∧
      (b.dispatchAll w.channel.queue).board.row? "paper" =
        some ((Row.create "paper").setCounter ⟨"1"⟩) ∧
      ∃ bar between held emptied behind,
        Bar.inc { name := "paper" } 1 {} = (bar, .ok between) ∧
          between.receive = (.frame held, emptied) ∧
          bar.inc 1 emptied = (w.bar, .ok behind) ∧ behind.post held = .ok w.channel :=
  ⟨rfl, rfl, rfl, _, _, _, _, _, rfl, rfl, rfl, rfl⟩

end SharedBar

end Runboard
