import Runboard.Feed.Channel
import Runboard.Proofs.Board.Consistency
import Runboard.Proofs.Message.Roundtrip

set_option autoImplicit false

namespace Runboard

theorem Channel.send_open {c : Channel} (isOpen : c.receiving = true) (m : Message) :
    c.send m = .ok { c with queue := c.queue ++ [m.toFrame] } := by
  simp only [send, post, isOpen, ↓reduceIte]

/-- What a producer can do. Bars are numbered in the order in which they were started. -/
inductive Operation
  | addBar (name : String)
  | inc (bar n : Nat)
  | setLength (bar n : Nat)
  | setMessage (bar : Nat) (text : String)
  | finish (bar : Nat) (text : String)
  | reportProblems (items : List String) (isFinal : Bool)
deriving DecidableEq, Repr

namespace Operation

def bar? : Operation → Option Nat
  | .inc bar _ => some bar
  | .setLength bar _ => some bar
  | .setMessage bar _ => some bar
  | .finish bar _ => some bar
  | _ => none

def change : Operation → Bar → Bar
  | .inc _ n, bar => bar.advance n
  | .setLength _ n, bar => bar.withLength n
  | _, bar => bar

def started? : Operation → Option String
  | .addBar name => some name
  | _ => none

def textFor? (bar : Nat) : Operation → Option String
  | .setMessage other text => if other = bar then some text else none
  | .finish other text => if other = bar then some text else none
  | _ => none

def finishes (bar : Nat) : Operation → Bool
  | .finish other _ => other = bar
  | _ => false

def report? : Operation → Option Report
  | .reportProblems items isFinal => some ⟨items, isFinal⟩
  | _ => none

end Operation

structure Producer where
  channel : Channel := {}
  bars : List Bar := []

namespace Producer

/-- A call on a bar. The bar keeps its change also if nothing could be posted. -/
def onBar (p : Producer) (index : Nat)
    (call : Bar → Channel → Bar × Except ChannelError Channel) :
    Producer × Except ChannelError Unit :=
  match p.bars[index]? with
  | none => (p, .ok ())
  | some bar =>
    match call bar p.channel with
    | (bar, .ok channel) => ({ channel, bars := p.bars.set index bar }, .ok ())
    | (bar, .error e) => ({ p with bars := p.bars.set index bar }, .error e)

def perform (p : Producer) : Operation → Producer × Except ChannelError Unit
  | .addBar name =>
    match Bar.start p.channel name with
    | .ok (bar, channel) => ({ channel, bars := p.bars ++ [bar] }, .ok ())
    | .error e => (p, .error e)
  | .inc index n => p.onBar index fun bar channel => bar.inc n channel
  | .setLength index n => p.onBar index fun bar channel => bar.setLength n channel
  | .setMessage index text => p.onBar index fun bar channel => (bar, bar.setMessage text channel)
  | .finish index text => p.onBar index fun bar channel => (bar, bar.finish text channel)
  | .reportProblems items isFinal =>
    match p.channel.reportProblems items isFinal with
    | .ok channel => ({ p with channel }, .ok ())
    | .error e => (p, .error e)

def lastText (done : List Operation) (index : Nat) : String :=
  (done.filterMap (Operation.textFor? index)).getLast?.getD ""

def isFinished (done : List Operation) (index : Nat) : Bool :=
  done.any (Operation.finishes index)

def lastReport (done : List Operation) : Option Report :=
  (done.filterMap Operation.report?).getLast?

/-- A bar is started only under a name that no unfinished bar has, and nothing is called on a bar
that is finished. -/
inductive Allowed (p : Producer) (done : List Operation) : Operation → Prop
  | addBar {name : String}
      (free : ∀ index bar, p.bars[index]? = some bar → bar.name = name →
        isFinished done index = true) : Allowed p done (.addBar name)
  | onBar {op : Operation} {index : Nat} {bar : Bar} (called : op.bar? = some index)
      (started : p.bars[index]? = some bar) (unfinished : isFinished done index = false) :
      Allowed p done op
  | reportProblems (items : List String) (isFinal : Bool) :
      Allowed p done (.reportProblems items isFinal)

/-- The producers that such operations on a new channel lead to. -/
inductive Run : List Operation → Producer → Prop
  | new : Run [] {}
  | perform {done : List Operation} {p : Producer} (before : Run done p) {op : Operation}
      (allowed : Allowed p done op) : Run (done ++ [op]) (p.perform op).1

/-- The message that a call on a bar posts, once the bar has changed. -/
def message (op : Operation) (bar : Bar) : Message :=
  match op with
  | .setMessage _ text => .note bar.name text
  | .finish _ text => .finish bar.name text
  | _ => bar.counterMessage

theorem perform_addBar {p : Producer} (isOpen : p.channel.receiving = true) (name : String) :
    p.perform (.addBar name) =
      ({ channel := { p.channel with queue := p.channel.queue ++ [(Message.add name).toFrame] }
         bars := p.bars ++ [{ name }] }, .ok ()) := by
  simp only [perform, Bar.start, Channel.send_open isOpen, bind, Except.bind, pure,
    Except.pure]

/-- A call on a bar changes that bar and posts one message about it. -/
theorem perform_onBar {p : Producer} (isOpen : p.channel.receiving = true) {op : Operation}
    {index : Nat} {bar : Bar} (called : op.bar? = some index)
    (started : p.bars[index]? = some bar) :
    p.perform op =
      ({ channel := { p.channel with
           queue := p.channel.queue ++ [(message op (op.change bar)).toFrame] }
         bars := p.bars.set index (op.change bar) }, .ok ()) := by
  cases op <;> cases called <;>
    simp only [perform, onBar, started, Bar.inc, Bar.setLength, Bar.setMessage, Bar.finish,
      Channel.send_open isOpen, Operation.change, message]

theorem perform_reportProblems {p : Producer} (isOpen : p.channel.receiving = true)
    (items : List String) (isFinal : Bool) :
    p.perform (.reportProblems items isFinal) =
      ({ p with channel := { p.channel with
           queue := p.channel.queue ++ [(Message.problems items isFinal).toFrame] } }, .ok ()) := by
  simp only [perform, Channel.reportProblems, Channel.send_open isOpen]

def rowOf (done : List Operation) (index : Nat) (bar : Bar) : Row :=
  { name := bar.name
    counter := bar.counter
    message := lastText done index
    indicator := if isFinished done index then .done else .spinner }

theorem lastText_concat (done : List Operation) (op : Operation) (index : Nat) :
    lastText (done ++ [op]) index = (op.textFor? index).getD (lastText done index) := by
  cases given : op.textFor? index <;> simp [lastText, given]

theorem isFinished_concat (done : List Operation) (op : Operation) (index : Nat) :
    isFinished (done ++ [op]) index = (isFinished done index || op.finishes index) := by
  simp [isFinished]

theorem lastReport_concat (done : List Operation) (op : Operation) :
    lastReport (done ++ [op]) = op.report?.or (lastReport done) := by
  cases given : op.report? <;> simp [lastReport, given]

/-- An operation tells nothing about a bar that it is not called on. -/
theorem told_of_ne {op : Operation} {index : Nat} (other : op.bar? ≠ some index) :
    op.textFor? index = none ∧ op.finishes index = false := by
  cases op <;> simp_all [Operation.bar?, Operation.textFor?, Operation.finishes]

theorem bar?_of_finishes {op : Operation} {index : Nat} (finishes : op.finishes index = true) :
    op.bar? = some index := by
  cases op <;> simp_all [Operation.bar?, Operation.finishes]

theorem rowOf_concat_of_ne {op : Operation} {index : Nat} (other : op.bar? ≠ some index)
    (done : List Operation) (bar : Bar) :
    rowOf (done ++ [op]) index bar = rowOf done index bar := by
  obtain ⟨text, finish⟩ := told_of_ne other
  simp only [rowOf, lastText_concat, isFinished_concat, text, finish, Option.getD_none,
    Bool.or_false]

/-- The message about a bar makes of its row what the operation makes of the bar. -/
theorem edit_rowOf {op : Operation} {index : Nat} (called : op.bar? = some index)
    (done : List Operation) (bar : Bar) :
    (message op (op.change bar)).edit (rowOf done index bar) =
      rowOf (done ++ [op]) index (op.change bar) := by
  cases op <;> cases called <;>
    simp [message, Operation.change, Bar.counterMessage, Message.edit, Row.setCounter,
      Row.setMessage, Row.finish, rowOf, lastText_concat, isFinished_concat,
      Operation.textFor?, Operation.finishes, Bar.advance, Bar.withLength]

theorem target?_message {op : Operation} {index : Nat} (called : op.bar? = some index)
    (bar : Bar) : (message op (op.change bar)).target? = some bar.name := by
  cases op <;> cases called <;> rfl

theorem kind_message {op : Operation} {index : Nat} (called : op.bar? = some index) (bar : Bar) :
    (message op (op.change bar)).kind = .finish ↔ op.finishes index = true := by
  cases op <;> cases called <;>
    simp [message, Operation.change, Operation.finishes, Message.kind, Bar.counterMessage]

theorem name_change (op : Operation) (bar : Bar) : (op.change bar).name = bar.name := by
  cases op <;> rfl

end Producer

namespace Board

/-- What has been seen after one more message. -/
def Step.andThen (seen : Step) (m : Message) : Step :=
  { board := (seen.board.accept m).board
    log := seen.log ++ (seen.board.accept m).log
    alerts := seen.alerts ++ (seen.board.accept m).alerts }

theorem dispatchAll_concat_toFrame (b : Board) (frames : List Json) (m : Message) :
    b.dispatchAll (frames ++ [m.toFrame]) = (b.dispatchAll frames).andThen m := by
  induction frames generalizing b with
  | nil => simp [dispatchAll, dispatch_toFrame, Step.andThen]
  | cons frame frames ih =>
      simp only [List.cons_append, dispatchAll, ih, Step.andThen, List.append_assoc]

theorem accept_of_applied {b after : Board} {m : Message} (applied : Applied b m after) :
    b.accept m = { board := after, log := b.applyLog m } := by
  simp only [accept, apply_eq_ok_iff.mpr applied]

/-- Only a name that already stands for a row makes a message worth a warning. -/
theorem level_applyLog (b : Board) (m : Message)
    (fresh : ∀ name, m = .add name → b.isActive name = false) :
    ∀ entry ∈ b.applyLog m, entry.level = .debug := by
  intro entry member
  cases m with
  | add name =>
      simp only [applyLog, fresh name rfl, Bool.false_eq_true, ↓reduceIte,
        List.mem_singleton] at member
      rw [member]
      rfl
  | problems items isFinal =>
      simp only [applyLog, List.mem_cons, List.not_mem_nil, or_false] at member
      rcases member with rfl | rfl <;> rfl
  | _ =>
      cases List.mem_singleton.mp member
      rfl

theorem headings_dispatchAll (b : Board) (frames : List Json) :
    (b.dispatchAll frames).board.headings = b.headings := by
  induction frames generalizing b with
  | nil => rfl
  | cons frame frames ih =>
      rw [dispatchAll, ih]
      rcases dispatch_cases b frame with ⟨m, _, same⟩ | ⟨_, same⟩
      · rw [same, headings_accept]
      · rw [same]

end Board

namespace Producer

/-- A board and all that it has logged and raised, in step with a producer. -/
structure InStep (done : List Operation) (p : Producer) (seen : Board.Step) : Prop where
  isOpen : p.channel.receiving = true
  /-- Operations are called on bars that were started. -/
  known : ∀ op ∈ done, ∀ index ∈ op.bar?, index < p.bars.length
  names : p.bars.map Bar.name = done.filterMap Operation.started?
  rows : seen.board.rows = p.bars.mapIdx (rowOf done)
  sorted : seen.board.active.Sorted
  active : ∀ name index, seen.board.active.get? name = some index ↔
    (p.bars.map Bar.name)[index]? = some name ∧ isFinished done index = false
  report : seen.board.report = lastReport done
  silent : seen.alerts = []
  calm : ∀ entry ∈ seen.log, entry.level = .debug

theorem inStep_new (headings : Headings) : InStep [] {} { board := .empty headings } := by
  refine ⟨rfl, ?_, rfl, rfl, Keyed.Sorted.nil, ?_, rfl, rfl, ?_⟩
  · intro op member
    cases member
  · intro name index
    simp [Board.empty]
  · intro entry member
    cases member

variable {done : List Operation} {p : Producer} {seen : Board.Step}

/-- A bar starts with the counter that a row starts with. -/
theorem counter_new (name : String) : ({ name } : Bar).counter = Counter.initial := by
  change Counter.ofNat 0 = Counter.initial
  decide

theorem getElem?_concat_iff (names : List String) (new name : String) (index : Nat) :
    (names ++ [new])[index]? = some name ↔
      names[index]? = some name ∨ index = names.length ∧ new = name := by
  rcases Nat.lt_trichotomy index names.length with before | rfl | beyond
  · simp [List.getElem?_append_left before, Nat.ne_of_lt before]
  · simp
  · have outside : (names ++ [new]).length ≤ index := by
      rw [List.length_append, List.length_singleton]
      omega
    simp [List.getElem?_eq_none outside, List.getElem?_eq_none (Nat.le_of_lt beyond),
      Nat.ne_of_gt beyond]

/-- Nothing has been told about a bar that nothing was called on. -/
theorem untold_of_unknown {index : Nat} (unknown : ∀ op ∈ done, op.bar? ≠ some index) :
    lastText done index = "" ∧ isFinished done index = false := by
  have texts : done.filterMap (Operation.textFor? index) = [] :=
    List.filterMap_eq_nil_iff.mpr fun op member => (told_of_ne (unknown op member)).1
  have finishes : done.any (Operation.finishes index) = false :=
    List.any_eq_false.mpr fun op member => by simp [(told_of_ne (unknown op member)).2]
  exact ⟨by rw [lastText, texts]; rfl, finishes⟩

/-- A call on a bar that there is keeps all calls on bars that there are. -/
theorem InStep.known_concat (inStep : InStep done p seen) {op : Operation} {count : Nat}
    (kept : p.bars.length ≤ count) (here : ∀ index ∈ op.bar?, index < count) :
    ∀ op' ∈ done ++ [op], ∀ index ∈ op'.bar?, index < count := by
  intro op' member index called
  rcases List.mem_append.mp member with earlier | last
  · exact Nat.lt_of_lt_of_le (inStep.known op' earlier index called) kept
  · cases List.mem_singleton.mp last
    exact here index called

/-- Nothing has been told about the next bar. -/
theorem InStep.untold (inStep : InStep done p seen) :
    lastText done p.bars.length = "" ∧ isFinished done p.bars.length = false :=
  untold_of_unknown fun op member called =>
    Nat.lt_irrefl _ (inStep.known op member _ called)

theorem finished_of_named {name : String}
    (free : ∀ index bar, p.bars[index]? = some bar → bar.name = name →
      isFinished done index = true) {index : Nat}
    (named : (p.bars.map Bar.name)[index]? = some name) : isFinished done index = true := by
  rw [List.getElem?_map] at named
  obtain ⟨bar, here, named⟩ := Option.map_eq_some_iff.mp named
  exact free index bar here named

/-- A new bar takes over its name; all others keep theirs. -/
theorem InStep.active_addRow (inStep : InStep done p seen) {name : String}
    (free : ∀ index bar, p.bars[index]? = some bar → bar.name = name →
      isFinished done index = true) (other : String) (index : Nat) :
    (seen.board.addRow name).active.get? other = some index ↔
      (p.bars.map Bar.name ++ [name])[index]? = some other ∧
        isFinished done index = false := by
  have length : seen.board.rows.length = p.bars.length := by
    rw [inStep.rows, List.length_mapIdx]
  simp only [Board.addRow, Keyed.get?_insert, length, getElem?_concat_iff, List.length_map]
  split
  · rename_i same
    subst same
    constructor
    · rintro ⟨⟩
      exact ⟨Or.inr ⟨rfl, rfl⟩, inStep.untold.2⟩
    · rintro ⟨named | ⟨rfl, _⟩, pending⟩
      · cases pending.symm.trans (finished_of_named free named)
      · rfl
  · rename_i apart
    simp [inStep.active, apart]

theorem InStep.addBar (inStep : InStep done p seen) {name : String}
    (free : ∀ index bar, p.bars[index]? = some bar → bar.name = name →
      isFinished done index = true) :
    InStep (done ++ [.addBar name]) (p.perform (.addBar name)).1 (seen.andThen (.add name)) := by
  have nowhere (index : Nat) : (Operation.addBar name).bar? ≠ some index :=
    (Option.some_ne_none index).symm
  have inactive : seen.board.isActive name = false := by
    cases found : seen.board.active.get? name with
    | none => rw [Board.isActive, found]; rfl
    | some index =>
        obtain ⟨named, unfinished⟩ := (inStep.active name index).mp found
        cases unfinished.symm.trans (finished_of_named free named)
  have kept : rowOf (done ++ [.addBar name]) = rowOf done :=
    funext fun index => funext fun bar => rowOf_concat_of_ne (nowhere index) done bar
  have created : rowOf done p.bars.length { name } = Row.create name := by
    simp only [rowOf, inStep.untold, counter_new]
    rfl
  rw [perform_addBar inStep.isOpen, Board.Step.andThen,
    Board.accept_of_applied (Board.Applied.add name)]
  refine ⟨inStep.isOpen, ?_, ?_, ?_, inStep.sorted.insert name _, ?_, ?_, ?_, ?_⟩
  · refine inStep.known_concat ?_ fun index called => (nowhere index called).elim
    rw [List.length_append]
    exact Nat.le_add_right _ _
  · rw [List.map_append, inStep.names, List.filterMap_append]
    rfl
  · rw [Board.addRow, List.mapIdx_concat, kept, created, inStep.rows]
  · intro other index
    rw [isFinished_concat, (told_of_ne (nowhere index)).2, Bool.or_false, List.map_append]
    exact inStep.active_addRow free other index
  · rw [lastReport_concat]
    exact inStep.report
  · rw [inStep.silent]
    rfl
  · refine List.forall_mem_append.mpr ⟨inStep.calm, Board.level_applyLog _ _ ?_⟩
    intro other same
    cases same
    exact inactive

theorem names_set {bars : List Bar} {index : Nat} {bar : Bar} (op : Operation)
    (started : bars[index]? = some bar) :
    (bars.set index (op.change bar)).map Bar.name = bars.map Bar.name := by
  apply List.ext_getElem?
  intro other
  rw [List.getElem?_map, List.getElem?_map, List.getElem?_set]
  split
  · rename_i same
    subst same
    rw [if_pos (List.getElem?_eq_some_iff.mp started).1, started, Option.map_some, name_change]
    rfl
  · rfl

/-- Only the row of the bar that was called on changes. -/
theorem rows_onBar {bars : List Bar} {op : Operation} {index : Nat} {bar : Bar}
    (called : op.bar? = some index) (started : bars[index]? = some bar)
    (done : List Operation) :
    (bars.mapIdx (rowOf done)).modify index (message op (op.change bar)).edit =
      (bars.set index (op.change bar)).mapIdx (rowOf (done ++ [op])) := by
  apply List.ext_getElem?
  intro other
  rw [List.getElem?_modify, List.getElem?_mapIdx, List.getElem?_mapIdx, List.getElem?_set]
  by_cases same : index = other
  · subst same
    simp only [started, (List.getElem?_eq_some_iff.mp started).1, ↓reduceIte, Option.map_some,
      Option.map_eq_map, edit_rowOf called]
  · have elsewhere : op.bar? ≠ some other := by
      rw [called]
      exact fun equal => same (Option.some.inj equal)
    cases bars[other]? with
    | none => simp [same]
    | some bar' => simp [same, rowOf_concat_of_ne elsewhere]

theorem getElem?_names {bars : List Bar} {index : Nat} {bar : Bar}
    (started : bars[index]? = some bar) : (bars.map Bar.name)[index]? = some bar.name := by
  rw [List.getElem?_map, started, Option.map_some]

/-- The name of a bar that is not finished stands for the row of the bar. -/
theorem InStep.get?_name (inStep : InStep done p seen) {index : Nat} {bar : Bar}
    (started : p.bars[index]? = some bar) (unfinished : isFinished done index = false) :
    seen.board.active.get? bar.name = some index :=
  (inStep.active bar.name index).mpr ⟨getElem?_names started, unfinished⟩

/-- A name is released by the operation that finishes its bar, and by no other. -/
theorem InStep.active_edited (inStep : InStep done p seen) {op : Operation} {index : Nat}
    {bar : Bar} (called : op.bar? = some index) (started : p.bars[index]? = some bar)
    (unfinished : isFinished done index = false) (other : String) (position : Nat) :
    (if (message op (op.change bar)).kind = .finish then seen.board.active.erase bar.name
      else seen.board.active).get? other = some position ↔
      (p.bars.map Bar.name)[position]? = some other ∧
        isFinished (done ++ [op]) position = false := by
  have named := getElem?_names started
  have found := inStep.get?_name started unfinished
  have ends := kind_message called bar
  rw [Board.get?_edited inStep.sorted, isFinished_concat, Bool.or_eq_false_iff, ← and_assoc,
    ← inStep.active]
  split
  · rename_i finished
    obtain ⟨finish, rfl⟩ := finished
    refine ⟨nofun, ?_⟩
    rintro ⟨here, goesOn⟩
    cases found.symm.trans here
    cases goesOn.symm.trans (ends.mp finish)
  · rename_i kept
    refine ⟨fun here => ⟨here, Bool.eq_false_iff.mpr fun finishes => ?_⟩, And.left⟩
    cases called.symm.trans (bar?_of_finishes finishes)
    have named' := ((inStep.active other index).mp here).1
    exact kept ⟨ends.mpr finishes, Option.some.inj (named.symm.trans named')⟩

theorem InStep.onBar (inStep : InStep done p seen) {op : Operation} {index : Nat} {bar : Bar}
    (called : op.bar? = some index) (started : p.bars[index]? = some bar)
    (unfinished : isFinished done index = false) :
    InStep (done ++ [op]) (p.perform op).1 (seen.andThen (message op (op.change bar))) := by
  have found := inStep.get?_name started unfinished
  have target := target?_message called bar
  have untold : op.started? = none ∧ op.report? = none := by
    cases op <;> cases called <;> exact ⟨rfl, rfl⟩
  rw [perform_onBar inStep.isOpen called started, Board.Step.andThen,
    Board.accept_of_applied (Board.Applied.edit target found)]
  refine ⟨inStep.isOpen, ?_, ?_, ?_, Board.sorted_edited inStep.sorted _ _, ?_, ?_, ?_, ?_⟩
  · rw [List.length_set]
    refine inStep.known_concat (Nat.le_refl _) fun other called' => ?_
    cases called.symm.trans called'
    exact (List.getElem?_eq_some_iff.mp started).1
  · rw [names_set op started, inStep.names, List.filterMap_append,
      List.filterMap_cons_none untold.1]
    exact (List.append_nil _).symm
  · dsimp only
    rw [inStep.rows, rows_onBar called started]
  · intro other position
    dsimp only
    rw [names_set op started]
    exact inStep.active_edited called started unfinished other position
  · rw [lastReport_concat, untold.2]
    exact inStep.report
  · rw [inStep.silent]
    rfl
  · refine List.forall_mem_append.mpr ⟨inStep.calm, Board.level_applyLog _ _ ?_⟩
    rintro name same
    rw [same] at target
    cases target

theorem InStep.reportProblems (inStep : InStep done p seen) (items : List String)
    (isFinal : Bool) :
    InStep (done ++ [.reportProblems items isFinal])
      (p.perform (.reportProblems items isFinal)).1
      (seen.andThen (.problems items isFinal)) := by
  have nowhere (index : Nat) : (Operation.reportProblems items isFinal).bar? ≠ some index :=
    (Option.some_ne_none index).symm
  have kept : rowOf (done ++ [.reportProblems items isFinal]) = rowOf done :=
    funext fun index => funext fun bar => rowOf_concat_of_ne (nowhere index) done bar
  rw [perform_reportProblems inStep.isOpen, Board.Step.andThen,
    Board.accept_of_applied (Board.Applied.problems items isFinal)]
  refine ⟨inStep.isOpen, ?_, ?_, ?_, inStep.sorted, ?_, ?_, ?_, ?_⟩
  · exact inStep.known_concat (Nat.le_refl _) fun index called => (nowhere index called).elim
  · rw [inStep.names, List.filterMap_append]
    exact (List.append_nil _).symm
  · rw [kept]
    exact inStep.rows
  · intro name index
    rw [isFinished_concat, (told_of_ne (nowhere index)).2, Bool.or_false]
    exact inStep.active name index
  · rw [lastReport_concat]
    rfl
  · rw [inStep.silent]
    rfl
  · refine List.forall_mem_append.mpr ⟨inStep.calm, ?_⟩
    refine Board.level_applyLog seen.board (.problems items isFinal) ?_
    intro name same
    cases same

/-- Every operation that is allowed posts one message, and the board that sees it follows. -/
theorem InStep.perform (inStep : InStep done p seen) {op : Operation}
    (allowed : Allowed p done op) :
    ∃ m : Message, (p.perform op).2 = .ok () ∧
      (p.perform op).1.channel.queue = p.channel.queue ++ [m.toFrame] ∧
      InStep (done ++ [op]) (p.perform op).1 (seen.andThen m) := by
  cases allowed with
  | @addBar name free =>
      have performed := perform_addBar inStep.isOpen name
      exact ⟨.add name, by rw [performed], by rw [performed], inStep.addBar free⟩
  | @onBar _ index bar called started unfinished =>
      have performed := perform_onBar inStep.isOpen called started
      exact ⟨message op (op.change bar), by rw [performed], by rw [performed],
        inStep.onBar called started unfinished⟩
  | reportProblems items isFinal =>
      have performed := perform_reportProblems inStep.isOpen items isFinal
      exact ⟨.problems items isFinal, by rw [performed], by rw [performed],
        inStep.reportProblems items isFinal⟩

/-- Whatever a producer does within its rules, a new board that sees all of it stays in step. -/
theorem Run.inStep (run : Run done p) (headings : Headings) :
    InStep done p ((Board.empty headings).dispatchAll p.channel.queue) := by
  induction run with
  | new => exact inStep_new headings
  | perform before allowed ih =>
      obtain ⟨m, _, posted, next⟩ := ih.perform allowed
      rw [posted, Board.dispatchAll_concat_toFrame]
      exact next

def viewOf (done : List Operation) (index : Nat) (bar : Bar) : RowView :=
  { name := bar.name
    counter := bar.counter.text
    message := lastText done index
    indicator := if isFinished done index then .done else .spinner
    active := !isFinished done index }

theorem InStep.view_rows_eq (inStep : InStep done p seen) :
    seen.board.view.rows = p.bars.mapIdx (viewOf done) := by
  apply List.ext_getElem?
  intro index
  rw [Board.getElem?_view_rows, inStep.rows, List.getElem?_mapIdx, List.getElem?_mapIdx]
  cases here : p.bars[index]? with
  | none => rfl
  | some bar =>
      have flagged : decide (seen.board.active.get? bar.name = some index) =
          !isFinished done index := by
        rw [Bool.eq_iff_iff, decide_eq_true_iff, inStep.active, Bool.not_eq_true']
        exact and_iff_right (getElem?_names here)
      simp only [Option.map_some, Board.viewRow, rowOf, viewOf, flagged]

/-- A new board that sees all frames of a producer raises no alert and logs neither warning nor
error. Its rows are the bars in the order in which they were started: each has the name and the
counter of its bar and the last text the bar was given, and is done and no longer active exactly
if the bar is finished. The report is the last one. -/
theorem monitor_in_step {ops : List Operation} {p : Producer} (run : Run ops p)
    (headings : Headings) :
    let seen := (Board.empty headings).dispatchAll p.channel.queue
    seen.alerts = [] ∧
      (∀ entry ∈ seen.log, entry.level ≠ .warn ∧ entry.level ≠ .error) ∧
      p.bars.map Bar.name = ops.filterMap Operation.started? ∧
      seen.board.view.rows = p.bars.mapIdx (viewOf ops) ∧
      seen.board.view.report = (lastReport ops).map fun report =>
        { heading := headings.headingFor report.isFinal
          problems := report.items
          isFinal := report.isFinal } := by
  intro seen
  have inStep := run.inStep headings
  refine ⟨inStep.silent, ?_, inStep.names, inStep.view_rows_eq, ?_⟩
  · intro entry member
    rw [inStep.calm entry member]
    exact ⟨nofun, nofun⟩
  · have same : seen.board.headings = headings := Board.headings_dispatchAll _ _
    have report : seen.board.report = lastReport ops := inStep.report
    rw [← report, ← same]
    rfl

/-- Whether a name is free can be computed. -/
theorem free_of_all {bars : List Bar} {name : String}
    (all : bars.zipIdx.all (fun (bar, index) => bar.name != name || isFinished done index) = true)
    (index : Nat) (bar : Bar) (here : bars[index]? = some bar) (named : bar.name = name) :
    isFinished done index = true := by
  have told := List.all_eq_true.mp all (bar, index) (List.mk_mem_zipIdx_iff_getElem?.mpr here)
  simpa [named] using told

/-- A name is used again after its bar was finished, while another bar is still running. -/
theorem monitor_in_step_reused_name :
    let ops : List Operation := [.addBar "paper", .addBar "person", .inc 0 3, .setMessage 1 "first",
      .finish 0 "found", .addBar "paper", .setLength 2 5, .reportProblems ["a"] false]
    let p := ops.foldl (fun p op => (p.perform op).1) {}
    Run ops p ∧
      ((Board.empty {}).dispatchAll p.channel.queue).board.view.rows =
        [⟨"paper", "3", "found", .done, false⟩, ⟨"person", "0", "first", .spinner, true⟩,
          ⟨"paper", "0/5", "", .spinner, true⟩] := by
  intro ops p
  have run : Run ops p := by
    refine .perform (.perform (.perform (.perform (.perform (.perform (.perform (.perform .new
      (.addBar ?_)) (.addBar ?_)) (.onBar rfl rfl rfl)) (.onBar rfl rfl rfl)) (.onBar rfl rfl rfl))
      (.addBar ?_)) (.onBar rfl rfl rfl)) (.reportProblems _ _)
    · exact free_of_all (by decide)
    · exact free_of_all (by decide)
    · exact free_of_all (by decide)
  refine ⟨run, ?_⟩
  rw [(monitor_in_step run {}).2.2.2.1]
  decide +kernel

end Producer

end Runboard
