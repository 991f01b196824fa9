import Mathlib.Data.List.Induction
import Runboard.Proofs.Board.Consistency

set_option autoImplicit false

/-!
A board told by its history.

The board keeps a map from names to rows and changes it message by message. Here the same board
is read off the list of all messages: every message that adds a row opens a window on the
messages after it, and the row shows what happened inside. The two descriptions agree for every
list of messages, whether or not the messages make sense together.
-/

namespace Runboard.History

inductive Closing
  /-- The row was finished, with its last comment. -/
  | finished (text : String)
  /-- The name was added again. -/
  | displaced
deriving DecidableEq, Repr

/-- How a message ends the window of a name, if it does. -/
def closing? (name : String) : Message → Option Closing
  | .add other => if other = name then some .displaced else none
  | .finish other text => if other = name then some (.finished text) else none
  | _ => none

/-- The messages that can reach a row, and what has ended them. -/
structure Window where
  name : String
  messages : List Message
  closing : Option Closing
deriving DecidableEq, Repr

/-- The window of a name that has just been added, in the messages that come later. It goes up to
and with the first message that finishes the name, or up to the first that adds the name again,
or else to the end. -/
def window (name : String) : List Message → Window
  | [] => ⟨name, [], none⟩
  | m :: later =>
    match closing? name m with
    | some (.finished text) => ⟨name, [m], some (.finished text)⟩
    | some .displaced => ⟨name, [], some .displaced⟩
    | none => { window name later with messages := m :: (window name later).messages }

def windows : List Message → List Window
  | [] => []
  | .add name :: later => window name later :: windows later
  | _ :: later => windows later

/-- The counter a message gives to the row of a name. -/
def counterOf? (name : String) : Message → Option Counter
  | .update other counter => if other = name then some counter else none
  | _ => none

/-- The comment a message gives to the row of a name, unless it finishes it. -/
def noteOf? (name : String) : Message → Option String
  | .note other text => if other = name then some text else none
  | _ => none

def reportOf? : Message → Option Report
  | .problems items isFinal => some ⟨items, isFinal⟩
  | _ => none

/-- What the last message with something to tell tells. -/
def lastOf {α : Type} (tell : Message → Option α) (ms : List Message) : Option α :=
  (ms.filterMap tell).getLast?

namespace Window

def isOpen (w : Window) : Bool := w.closing.isNone

/-- The row of a window: its last counter and comment, or that of the message which finished it. -/
def row (w : Window) : Row :=
  { name := w.name
    counter := (lastOf (counterOf? w.name) w.messages).getD ⟨"0"⟩
    message :=
      match w.closing with
      | some (.finished text) => text
      | _ => (lastOf (noteOf? w.name) w.messages).getD ""
    indicator :=
      match w.closing with
      | some (.finished _) => .done
      | _ => .spinner }

def view (w : Window) : RowView :=
  { name := w.row.name
    counter := w.row.counter.text
    message := w.row.message
    indicator := w.row.indicator
    active := w.isOpen }

/-- The window after one more message. -/
def extend (w : Window) (m : Message) : Window :=
  match w.closing with
  | some _ => w
  | none =>
    match closing? w.name m with
    | some (.finished text) =>
      { w with messages := w.messages ++ [m], closing := some (.finished text) }
    | some .displaced => { w with closing := some .displaced }
    | none => { w with messages := w.messages ++ [m] }

end Window

/-- The board of a history. Only a message that adds a row or puts up a report can be the first
to change anything. -/
def board (headings : Headings) (ms : List Message) : Board :=
  { rows := (windows ms).map Window.row
    active := Keyed.ofPairs
      (((windows ms).zipIdx.filter fun entry => entry.1.isOpen).map fun entry =>
        (entry.1.name, entry.2))
    report := lastOf reportOf? ms
    headings
    dirty := ms.any fun m => m.target?.isNone }

def view (headings : Headings) (ms : List Message) : View :=
  { rows := (windows ms).map Window.view
    activeCount := ((windows ms).filter Window.isOpen).length
    report := (lastOf reportOf? ms).map fun report =>
      { heading := headings.headingFor report.isFinal
        problems := report.items
        isFinal := report.isFinal }
    dirty := ms.any fun m => m.target?.isNone }

@[simp] theorem lastOf_snoc {α : Type} (tell : Message → Option α) (ms : List Message)
    (m : Message) : lastOf tell (ms ++ [m]) = (tell m).or (lastOf tell ms) := by
  cases told : tell m <;> simp [lastOf, told]

@[simp] theorem Window.name_extend (w : Window) (m : Message) : (w.extend m).name = w.name := by
  unfold Window.extend
  split
  · rfl
  · split <;> rfl

theorem Window.isOpen_extend (w : Window) (m : Message) :
    (w.extend m).isOpen = (w.isOpen && (closing? w.name m).isNone) := by
  unfold Window.extend
  split
  · rename_i closed
    simp [isOpen, closed]
  · rename_i isOpen
    split <;> simp_all [Window.isOpen]

/-- A message reaches the row of a window only if the window is open and the message edits the
row of that name. -/
theorem Window.row_extend (w : Window) (m : Message) :
    (w.extend m).row =
      if w.isOpen = true ∧ m.target? = some w.name then m.edit w.row else w.row := by
  obtain ⟨name, messages, closing⟩ := w
  cases closing with
  | some closing => simp [extend, isOpen]
  | none =>
      cases m with
      | add other =>
          by_cases same : other = name <;>
            simp [extend, closing?, same, row, counterOf?, noteOf?, Message.target?]
      | update other counter =>
          by_cases same : other = name <;>
            simp [extend, closing?, same, row, counterOf?, noteOf?, Message.target?, isOpen,
              Message.edit, Row.setCounter]
      | note other text =>
          by_cases same : other = name <;>
            simp [extend, closing?, same, row, counterOf?, noteOf?, Message.target?, isOpen,
              Message.edit, Row.setMessage]
      | finish other text =>
          by_cases same : other = name <;>
            simp [extend, closing?, same, row, counterOf?, noteOf?, Message.target?, isOpen,
              Message.edit, Row.finish]
      | problems items isFinal =>
          simp [extend, closing?, row, counterOf?, noteOf?, Message.target?]

theorem window_snoc (name : String) (later : List Message) (m : Message) :
    window name (later ++ [m]) = (window name later).extend m := by
  induction later with
  | nil => simp only [List.nil_append, window, Window.extend]
  | cons first later ih =>
      simp only [List.cons_append, window, ih]
      split
      · rfl
      · rfl
      · simp only [Window.extend]
        split
        · rfl
        · split <;> rfl

theorem windows_snoc (ms : List Message) (m : Message) :
    windows (ms ++ [m]) = (windows ms).map (·.extend m) ++ windows [m] := by
  induction ms with
  | nil => rfl
  | cons first ms ih =>
      cases first <;> simp only [List.cons_append, windows, ih, window_snoc, List.map_cons]

/-- A window can only be there if a row was added. -/
theorem any_of_mem_windows {ms : List Message} {w : Window} (member : w ∈ windows ms) :
    ms.any (fun m => m.target?.isNone) = true := by
  induction ms with
  | nil => cases member
  | cons m ms ih =>
      cases m with
      | add name => rfl
      | problems items isFinal => rfl
      | update name counter => simpa [windows, Message.target?] using ih member
      | note name text => simpa [windows, Message.target?] using ih member
      | finish name text => simpa [windows, Message.target?] using ih member

/-- The window at the index has the name and is open. -/
def OpenAt (ws : List Window) (name : String) (index : Nat) : Prop :=
  ∃ w, ws[index]? = some w ∧ w.name = name ∧ w.isOpen = true

theorem openAt_extend (ws : List Window) (m : Message) (name : String) (index : Nat) :
    OpenAt (ws.map (·.extend m)) name index ↔ OpenAt ws name index ∧ closing? name m = none := by
  simp only [OpenAt, List.getElem?_map]
  constructor
  · rintro ⟨_, here, named, stillOpen⟩
    obtain ⟨w, there, rfl⟩ := Option.map_eq_some_iff.mp here
    rw [Window.name_extend] at named
    rw [Window.isOpen_extend, Bool.and_eq_true, Option.isNone_iff_eq_none, named] at stillOpen
    exact ⟨⟨w, there, named, stillOpen.1⟩, stillOpen.2⟩
  · rintro ⟨⟨w, there, rfl, isOpen⟩, goesOn⟩
    refine ⟨w.extend m, by rw [there]; rfl, w.name_extend m, ?_⟩
    rw [Window.isOpen_extend, isOpen, goesOn]
    rfl

theorem openAt_snoc (ws : List Window) (name other : String) (index : Nat) :
    OpenAt (ws ++ [window name []]) other index ↔
      OpenAt ws other index ∨ index = ws.length ∧ name = other := by
  simp only [OpenAt, List.getElem?_append]
  split
  · rename_i before
    constructor
    · exact Or.inl
    · rintro (there | ⟨atEnd, _⟩)
      · exact there
      · omega
  · rename_i beyond
    rw [List.getElem?_eq_none (by omega : ws.length ≤ index)]
    constructor
    · rintro ⟨w, here, named, _⟩
      obtain ⟨atEnd, rfl⟩ := List.getElem?_eq_some_iff.mp here
      rw [List.length_singleton] at atEnd
      exact Or.inr ⟨by omega, by simpa [window] using named⟩
    · rintro (⟨w, there, _⟩ | ⟨rfl, rfl⟩)
      · cases there
      · exact ⟨window name [], by simp, rfl, rfl⟩

/-- The board shows what the windows of the history tell. -/
structure Tracks (b : Board) (ms : List Message) : Prop where
  rows : b.rows = (windows ms).map Window.row
  sorted : b.active.Sorted
  active : ∀ name index, b.active.get? name = some index ↔ OpenAt (windows ms) name index
  report : b.report = lastOf reportOf? ms
  dirty : b.dirty = ms.any fun m => m.target?.isNone

theorem Tracks.empty (headings : Headings) : Tracks (.empty headings) [] := by
  refine ⟨rfl, Keyed.Sorted.nil, ?_, rfl, rfl⟩
  intro name index
  simp [Board.empty, windows, OpenAt]

/-- A message without a target leaves all rows as they are. -/
theorem rows_extend_of_not_target {m : Message} (untargeted : m.target? = none)
    (ws : List Window) : (ws.map (·.extend m)).map Window.row = ws.map Window.row := by
  rw [List.map_map]
  apply List.map_congr_left
  intro w _
  simp [Window.row_extend, untargeted]

theorem Tracks.add {b : Board} {ms : List Message} (tracks : Tracks b ms) (name : String) :
    Tracks (b.addRow name) (ms ++ [.add name]) := by
  have opened : windows (ms ++ [.add name]) =
      (windows ms).map (·.extend (.add name)) ++ [window name []] := windows_snoc ms (.add name)
  have length : b.rows.length = (windows ms).length := by
    rw [tracks.rows, List.length_map]
  refine ⟨?_, tracks.sorted.insert name _, ?_, ?_, ?_⟩
  · rw [opened, List.map_append, rows_extend_of_not_target rfl, ← tracks.rows]
    rfl
  · intro other index
    rw [opened, openAt_snoc, openAt_extend, ← tracks.active, List.length_map]
    simp only [Board.addRow, Keyed.get?_insert, length, closing?]
    by_cases same : name = other
    · simp [same, eq_comm]
    · simp [same]
  · simp [Board.addRow, tracks.report, reportOf?]
  · simp [Board.addRow, Message.target?]

/-- The one row that a message edits is that of the open window of its name. -/
theorem rows_extend_of_target {b : Board} {ms : List Message} (tracks : Tracks b ms)
    {m : Message} {name : String} {index : Nat} (target : m.target? = some name)
    (found : b.active.get? name = some index) :
    b.rows.modify index m.edit = ((windows ms).map (·.extend m)).map Window.row := by
  obtain ⟨w, here, named, isOpen⟩ := (tracks.active name index).mp found
  apply List.ext_getElem?
  intro i
  rw [tracks.rows, List.getElem?_modify, List.getElem?_map, List.getElem?_map, List.getElem?_map]
  by_cases same : index = i
  · subst same
    simp [here, Window.row_extend, isOpen, target, named]
  · cases other : (windows ms)[i]? with
    | none => rfl
    | some w' =>
        -- A second open window of the name would be found in the map as well.
        have unreached : ¬ (w'.isOpen = true ∧ m.target? = some w'.name) := by
          rintro ⟨isOpen', target'⟩
          have named' : w'.name = name := Option.some.inj (target'.symm.trans target)
          have found' := (tracks.active name i).mpr ⟨w', other, named', isOpen'⟩
          exact same (Option.some.inj (found.symm.trans found'))
        simp [same, Window.row_extend, unreached]

theorem closing?_of_target {m : Message} {name : String} (target : m.target? = some name)
    (other : String) : closing? other m = none ↔ ¬ (m.kind = .finish ∧ name = other) := by
  cases m <;> cases target <;> simp [closing?, Message.kind]

theorem windows_snoc_of_target {m : Message} {name : String} (target : m.target? = some name)
    (ms : List Message) : windows (ms ++ [m]) = (windows ms).map (·.extend m) := by
  rw [windows_snoc]
  cases m <;> cases target <;> exact List.append_nil _

theorem reportOf?_of_target {m : Message} {name : String} (target : m.target? = some name) :
    reportOf? m = none := by
  cases m <;> cases target <;> rfl

theorem Tracks.edit {b : Board} {ms : List Message} (tracks : Tracks b ms) {m : Message}
    {name : String} {index : Nat} (target : m.target? = some name)
    (found : b.active.get? name = some index) :
    Tracks { b with
      rows := b.rows.modify index m.edit
      active := if m.kind = .finish then b.active.erase name else b.active
      dirty := true } (ms ++ [m]) := by
  refine ⟨?_, Board.sorted_edited tracks.sorted m name, ?_, ?_, ?_⟩
  · rw [windows_snoc_of_target target]
    exact rows_extend_of_target tracks target found
  · intro other i
    dsimp only
    rw [windows_snoc_of_target target, openAt_extend, closing?_of_target target,
      ← tracks.active, Board.get?_edited tracks.sorted]
    split <;> simp_all
  · rw [lastOf_snoc, reportOf?_of_target target]
    exact tracks.report
  · obtain ⟨w, here, _⟩ := (tracks.active name index).mp found
    rw [List.any_append, any_of_mem_windows (List.mem_of_getElem? here)]
    rfl

theorem Tracks.problems {b : Board} {ms : List Message} (tracks : Tracks b ms)
    (items : List String) (isFinal : Bool) :
    Tracks { b with report := some ⟨items, isFinal⟩, dirty := true }
      (ms ++ [.problems items isFinal]) := by
  have same : windows (ms ++ [.problems items isFinal]) =
      (windows ms).map (·.extend (.problems items isFinal)) := by
    rw [windows_snoc]
    exact List.append_nil _
  refine ⟨?_, tracks.sorted, ?_, ?_, ?_⟩
  · rw [same, rows_extend_of_not_target rfl]
    exact tracks.rows
  · intro name index
    rw [same, openAt_extend, ← tracks.active]
    simp [closing?]
  · rw [lastOf_snoc]
    rfl
  · simp [Message.target?]

/-- A message about a name without an open window tells nothing. -/
theorem Tracks.refused {b : Board} {ms : List Message} (tracks : Tracks b ms) {m : Message}
    {name : String} (refused : b.Refuses m name) : Tracks b (ms ++ [m]) := by
  obtain ⟨target, absent⟩ := refused
  have closed (index : Nat) : ¬ OpenAt (windows ms) name index := by
    rw [← tracks.active, absent]
    simp
  refine ⟨?_, tracks.sorted, ?_, ?_, ?_⟩
  · rw [windows_snoc_of_target target, List.map_map, tracks.rows]
    apply List.map_congr_left
    intro w member
    obtain ⟨index, here⟩ := List.mem_iff_getElem?.mp member
    have unreached : ¬ (w.isOpen = true ∧ m.target? = some w.name) := by
      rintro ⟨isOpen, target'⟩
      exact closed index ⟨w, here, Option.some.inj (target'.symm.trans target), isOpen⟩
    simp [Window.row_extend, unreached]
  · intro other index
    rw [windows_snoc_of_target target, openAt_extend, closing?_of_target target, tracks.active]
    constructor
    · intro isOpen
      refine ⟨isOpen, ?_⟩
      rintro ⟨_, rfl⟩
      exact closed index isOpen
    · exact And.left
  · rw [lastOf_snoc, reportOf?_of_target target]
    exact tracks.report
  · simp [tracks.dirty, target]

theorem Tracks.accept {b : Board} {ms : List Message} (tracks : Tracks b ms) (m : Message) :
    Tracks (b.accept m).board (ms ++ [m]) := by
  rcases Board.accept_cases b m with applied | ⟨⟨name, refused⟩, same⟩
  · generalize (b.accept m).board = after at applied
    cases applied with
    | add name => exact tracks.add name
    | edit target found => exact tracks.edit target found
    | problems items isFinal => exact tracks.problems items isFinal
  · rw [same]
    exact tracks.refused refused

theorem tracks_acceptAll (headings : Headings) (ms : List Message) :
    Tracks ((Board.empty headings).acceptAll ms) ms := by
  induction ms using List.reverseRecOn with
  | nil => exact Tracks.empty headings
  | append_singleton ms m ih =>
      rw [Board.acceptAll, List.foldl_append]
      exact ih.accept m

theorem Tracks.active_eq {b : Board} {ms : List Message} (tracks : Tracks b ms) :
    b.active = Keyed.ofPairs
      (((windows ms).zipIdx.filter fun entry => entry.1.isOpen).map fun entry =>
        (entry.1.name, entry.2)) := by
  refine tracks.sorted.ext (Keyed.sorted_ofPairs _) ?_
  intro name
  rw [Keyed.get?_ofPairs]
  generalize listed : List.filterMap _ _ = indices
  have members (index : Nat) : index ∈ indices ↔ b.active.get? name = some index := by
    rw [tracks.active, ← listed]
    simp only [List.mem_filterMap, List.mem_map, List.mem_filter, List.mem_zipIdx_iff_getElem?]
    constructor
    · rintro ⟨_, ⟨⟨w, i⟩, ⟨here, isOpen⟩, rfl⟩, told⟩
      obtain ⟨named, same⟩ := Option.ite_none_right_eq_some.mp told
      exact ⟨w, Option.some.inj same ▸ here, named, isOpen⟩
    · rintro ⟨w, here, named, isOpen⟩
      exact ⟨(w.name, index), ⟨(w, index), ⟨here, isOpen⟩, rfl⟩, by simp [named]⟩
  cases last : indices.getLast? with
  | none =>
      cases found : b.active.get? name with
      | none => rfl
      | some index =>
          have member := (members index).mpr found
          rw [List.getLast?_eq_none_iff.mp last] at member
          cases member
  | some index => exact (members index).mp (List.mem_of_getLast? last)

/-- The view of a row flags it exactly if nothing has ended its window. -/
theorem Tracks.view_rows_eq {b : Board} {ms : List Message} (tracks : Tracks b ms) :
    b.view.rows = (windows ms).map Window.view := by
  apply List.ext_getElem?
  intro index
  rw [Board.getElem?_view_rows, tracks.rows, List.getElem?_map, List.getElem?_map]
  cases here : (windows ms)[index]? with
  | none => rfl
  | some w =>
      have flagged : b.active.get? w.row.name = some index ↔ w.isOpen = true := by
        rw [tracks.active]
        simp [OpenAt, here, Window.row]
      simp only [Option.map_some, Board.viewRow, Window.view, Option.some.injEq,
        RowView.mk.injEq, true_and]
      exact Bool.eq_iff_iff.mpr (decide_eq_true_iff.trans flagged)

theorem filter_view_active (ws : List Window) :
    ((ws.map Window.view).filter RowView.active).length = (ws.filter Window.isOpen).length := by
  rw [List.filter_map, List.length_map]
  rfl

/-- For every list of messages, the board that takes them one after another is the one its
history tells, and so is what it displays. -/
theorem acceptAll_eq_history (headings : Headings) (ms : List Message) :
    (Board.empty headings).acceptAll ms = board headings ms ∧
      ((Board.empty headings).acceptAll ms).view = view headings ms := by
  have tracks := tracks_acceptAll headings ms
  have consistent := ((Board.Reachable.empty headings).acceptAll ms).consistent
  have kept := Board.headings_acceptAll (.empty headings) ms
  generalize (Board.empty headings).acceptAll ms = b at tracks consistent kept
  have same : b.headings = headings := kept
  constructor
  · obtain ⟨rows, active, report, _, dirty⟩ := b
    simp only [board, Board.mk.injEq]
    exact ⟨tracks.rows, tracks.active_eq, tracks.report, same, tracks.dirty⟩
  · have counted := consistent.activeCount_eq
    rw [tracks.view_rows_eq, filter_view_active] at counted
    simp only [view, ← tracks.view_rows_eq, ← counted, ← tracks.report, ← tracks.dirty, ← same]
    rfl

end Runboard.History
