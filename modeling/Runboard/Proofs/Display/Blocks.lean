import Mathlib.Data.List.Forall2
import Runboard.Proofs.Feed.Script
import Runboard.Proofs.Session.Transcript

set_option autoImplicit false

namespace Runboard

namespace Display

/-- The line has no control characters, which are U+0000 to U+001F and U+007F to U+009F. -/
def Visible (line : String) : Prop :=
  ∀ c ∈ line.toList, ¬(c.toNat < 0x20 ∨ 0x7f ≤ c.toNat ∧ c.toNat ≤ 0x9f)

theorem visible_of_all {line : String}
    (all : (line.toList.all fun c => !Text.isControl c) = true) : Visible line := by
  intro c member
  have shown := List.all_eq_true.mp all c member
  simp only [Text.isControl, Bool.not_eq_true', Bool.or_eq_false_iff, Bool.and_eq_false_iff,
    decide_eq_false_iff_not] at shown
  omega

theorem Visible.append {first second : String} (left : Visible first) (right : Visible second) :
    Visible (first ++ second) := by
  intro c member
  rw [String.toList_append, List.mem_append] at member
  rcases member with before | after
  · exact left c before
  · exact right c after

theorem isControl_plainChar (c : Char) : Text.isControl (plainChar c) = false := by
  unfold plainChar
  split
  · rfl
  · split
    · rfl
    · rename_i printed
      exact Bool.eq_false_iff.mpr printed

/-- Whatever a text from outside holds, it is shown without control characters. -/
theorem visible_plainText (text : String) : Visible (plainText text) := by
  apply visible_of_all
  rw [plainText, String.toList_map, List.all_map]
  apply List.all_eq_true.mpr
  intro c _
  simp only [Function.comp_apply, isControl_plainChar, Bool.not_false]

/-- A character in its place: as it is, unless it is a control character. A tab, a line feed and a
carriage return leave a space, any other control character leaves U+FFFD. -/
def StandsFor (shown c : Char) : Prop :=
  if c.toNat = 0x09 ∨ c.toNat = 0x0a ∨ c.toNat = 0x0d then shown.toNat = 0x20
  else if c.toNat < 0x20 ∨ 0x7f ≤ c.toNat ∧ c.toNat ≤ 0x9f then shown.toNat = 0xfffd
  else shown = c

/-- Every character of a text stands in its place. -/
def Keeps (shown text : String) : Prop := List.Forall₂ StandsFor shown.toList text.toList

theorem standsFor_plainChar (c : Char) : StandsFor (plainChar c) c := by
  have spaces : (c = '\n' || c = '\r' || c = '\t') = true ↔
      c.toNat = 0x09 ∨ c.toNat = 0x0a ∨ c.toNat = 0x0d := by
    simp only [Bool.or_eq_true, decide_eq_true_eq, ← Char.toNat_inj]
    have feed : '\n'.toNat = 0x0a := rfl
    have back : '\r'.toNat = 0x0d := rfl
    have tab : '\t'.toNat = 0x09 := rfl
    omega
  have controls : Text.isControl c = true ↔
      c.toNat < 0x20 ∨ 0x7f ≤ c.toNat ∧ c.toNat ≤ 0x9f := by
    simp only [Text.isControl, Bool.or_eq_true, Bool.and_eq_true, decide_eq_true_eq]
    omega
  unfold StandsFor plainChar
  simp only [spaces, controls]
  split
  · rfl
  · split <;> rfl

theorem keeps_plainText (text : String) : Keeps (plainText text) text := by
  rw [Keeps, plainText, String.toList_map, List.forall₂_map_left_iff, List.forall₂_same]
  intro c _
  exact standsFor_plainChar c

theorem visible_toString (n : Nat) : Visible (toString n) := by
  intro c member
  have digits : (toString n).toList = Nat.toDigits 10 n := String.toList_ofList
  rw [digits] at member
  have digit := Nat.isDigit_of_mem_toDigits (by decide) (Nat.le_refl 10) member
  have range := Char.isDigit_iff_toNat.mp digit
  have zero : '0'.toNat = 48 := rfl
  have nine : '9'.toNat = 57 := rfl
  omega

/-- A line below the one with the numbers of rows that is not empty: it starts with the marker of a
row or with the mark of a heading or a problem. -/
inductive Marked : String → Prop
  | row (indicator : Indicator) {text : String} (visible : Visible text) :
      Marked (marker indicator ++ text)
  | heading {text : String} (visible : Visible text) : Marked ("== " ++ text)
  | problem {text : String} (visible : Visible text) : Marked ("- " ++ text)

namespace Marked

variable {line : String}

theorem visible (marked : Marked line) : Visible line := by
  cases marked with
  | row indicator visible =>
      refine Visible.append (visible_of_all ?_) visible
      cases indicator <;> decide
  | heading visible => exact Visible.append (visible_of_all (by decide)) visible
  | problem visible => exact Visible.append (visible_of_all (by decide)) visible

/-- The first two characters tell a marked line from every line without a mark. -/
theorem opening (marked : Marked line) :
    ∃ rest, line.toList = '⏳' :: rest ∨ line.toList = '✅' :: rest ∨
      line.toList = '=' :: rest ∨ line.toList = '-' :: ' ' :: rest := by
  cases marked with
  | @row indicator text visible =>
      refine ⟨text.toList, ?_⟩
      cases indicator
      · exact Or.inl (String.toList_append)
      · exact Or.inr (Or.inl String.toList_append)
  | @heading text visible =>
      exact ⟨'=' :: ' ' :: text.toList, Or.inr (Or.inr (Or.inl String.toList_append))⟩
  | @problem text visible =>
      exact ⟨text.toList, Or.inr (Or.inr (Or.inr String.toList_append))⟩

theorem ne_separator (marked : Marked line) : line ≠ separator := by
  rintro rfl
  have dashes : separator.toList = ['-', '-', '-', '-'] := rfl
  obtain ⟨rest, opens⟩ := marked.opening
  simp [dashes] at opens

theorem ne_empty (marked : Marked line) : line ≠ "" := by
  rintro rfl
  obtain ⟨rest, opens⟩ := marked.opening
  simp at opens

theorem not_status (marked : Marked line) : ¬ "Progress: ".toList <+: line.toList := by
  rintro ⟨more, starts⟩
  have first : line.toList.head? = some 'P' := by
    rw [← starts]
    rfl
  obtain ⟨rest, opens | opens | opens | opens⟩ := marked.opening
  all_goals
    rw [opens] at first
    cases first

end Marked

theorem marked_rowLine (row : RowView) : Marked (rowLine row) := by
  have name := visible_plainText row.name
  have counter := visible_plainText row.counter
  have message := visible_plainText row.message
  have bracket : Visible " [" := visible_of_all (by decide)
  have close : Visible "] " := visible_of_all (by decide)
  have colon : Visible ": " := visible_of_all (by decide)
  have head := ((bracket.append name).append close).append counter
  unfold rowLine
  dsimp only
  split
  · simpa only [String.append_assoc] using Marked.row row.indicator head
  · simpa only [String.append_assoc] using
      Marked.row row.indicator ((head.append colon).append message)

theorem marked_heading (heading : String) : Marked ("== " ++ plainText heading ++ " ==") := by
  have close : Visible " ==" := visible_of_all (by decide)
  simpa only [String.append_assoc] using Marked.heading ((visible_plainText heading).append close)

theorem marked_problem (problem : String) : Marked ("- " ++ plainText problem) :=
  .problem (visible_plainText problem)

theorem visible_statusLine (view : View) : Visible (statusLine view) := by
  have start : Visible "Progress: " := visible_of_all (by decide)
  have running : Visible " running | " := visible_of_all (by decide)
  have total : Visible " total" := visible_of_all (by decide)
  exact (((start.append (visible_toString _)).append running).append
    (visible_toString _)).append total

theorem prefix_statusLine (view : View) : "Progress: ".toList <+: (statusLine view).toList := by
  simp only [statusLine, String.toList_append, List.append_assoc]
  exact List.prefix_append _ _

/-- No other line is mistaken for the one with the numbers of rows. -/
theorem ne_statusLine {line : String} (other : ¬ "Progress: ".toList <+: line.toList)
    (view : View) : line ≠ statusLine view := by
  rintro rfl
  exact other (prefix_statusLine view)

/-! The lines of one view. -/

theorem marked_of_mem_rows {view : View} {line : String} (member : line ∈ view.rows.map rowLine) :
    Marked line := by
  obtain ⟨row, _, rfl⟩ := List.mem_map.mp member
  exact marked_rowLine row

/-- A report is an empty line and marked lines after it. -/
theorem reportLines_eq (report : ReportView) : ∃ rest, reportLines report = "" :: rest ∧
    rest.length = 1 + report.problems.length ∧ ∀ line ∈ rest, Marked line := by
  refine ⟨_, rfl, by simp only [List.length_cons, List.length_map]; omega, ?_⟩
  intro line member
  rcases List.mem_cons.mp member with rfl | listed
  · exact marked_heading report.heading
  · obtain ⟨problem, _, rfl⟩ := List.mem_map.mp listed
    exact marked_problem problem

/-- Every line of a view but the first is marked, or it is the empty one of the report. -/
theorem marked_of_mem_below {view : View} {line : String} (below : line ∈ (viewLines view).tail) :
    Marked line ∨ line = "" := by
  rcases List.mem_append.mp below with row | report
  · exact Or.inl (marked_of_mem_rows row)
  · cases present : view.report with
    | none => simp [present] at report
    | some shown =>
        obtain ⟨rest, lines, _, marked⟩ := reportLines_eq shown
        rw [present, Option.map_some, Option.getD_some, lines] at report
        rcases List.mem_cons.mp report with empty | listed
        · exact Or.inr empty
        · exact Or.inl (marked line listed)

theorem mem_viewLines {view : View} {line : String} (member : line ∈ viewLines view) :
    line = statusLine view ∨ Marked line ∨ line = "" :=
  (List.mem_cons.mp member).imp_right marked_of_mem_below

theorem visible_of_mem_viewLines {view : View} {line : String} (member : line ∈ viewLines view) :
    Visible line := by
  rcases mem_viewLines member with rfl | marked | rfl
  · exact visible_statusLine view
  · exact marked.visible
  · exact visible_of_all rfl

theorem separator_not_mem_viewLines (view : View) : separator ∉ viewLines view := by
  intro member
  rcases mem_viewLines member with status | marked | empty
  · exact ne_statusLine (by decide) view status
  · exact marked.ne_separator rfl
  · exact absurd empty (by decide)

theorem length_viewLines (view : View) : (viewLines view).length =
    1 + view.rows.length + view.report.elim 0 fun report => 2 + report.problems.length := by
  simp only [viewLines, List.length_append, List.length_cons, List.length_map]
  cases present : view.report with
  | none => simp only [Option.map_none, Option.getD_none, List.length_nil, Option.elim_none]; omega
  | some report =>
      obtain ⟨rest, lines, length, _⟩ := reportLines_eq report
      simp only [Option.map_some, Option.getD_some, Option.elim_some, lines, List.length_cons]
      omega

/-- The numbers of rows stand on the first line, and nothing below looks like them. -/
theorem prefix_viewLines_iff {view : View} {index : Nat} {line : String}
    (here : (viewLines view)[index]? = some line) :
    "Progress: ".toList <+: line.toList ↔ index = 0 := by
  cases index with
  | zero =>
      have first : statusLine view = line := Option.some.inj here
      rw [← first]
      simp only [prefix_statusLine]
  | succ index =>
      have below : line ∈ (viewLines view).tail := List.mem_of_getElem? here
      simp only [Nat.add_one_ne_zero, iff_false]
      rcases marked_of_mem_below below with marked | rfl
      · exact marked.not_status
      · decide

/-- The only empty line is the one before the heading of the report. -/
theorem getElem?_viewLines_eq_empty_iff (view : View) (index : Nat) :
    (viewLines view)[index]? = some "" ↔
      view.report.isSome = true ∧ index = 1 + view.rows.length := by
  have front : "" ∉ statusLine view :: view.rows.map rowLine := by
    intro member
    rcases List.mem_cons.mp member with status | row
    · exact ne_statusLine (by decide) view status
    · exact (marked_of_mem_rows row).ne_empty rfl
  have length : (statusLine view :: view.rows.map rowLine).length = 1 + view.rows.length := by
    simp only [List.length_cons, List.length_map]
    omega
  rw [viewLines, List.getElem?_append, length]
  split
  · rename_i before
    constructor
    · intro here
      exact absurd (List.mem_of_getElem? here) front
    · rintro ⟨_, rfl⟩
      omega
  · rename_i after
    cases present : view.report with
    | none => simp
    | some report =>
        obtain ⟨rest, lines, _, marked⟩ := reportLines_eq report
        simp only [Option.map_some, Option.getD_some, lines, Option.isSome_some, true_and]
        cases offset : index - (1 + view.rows.length) with
        | zero =>
            simp only [List.getElem?_cons_zero, true_iff]
            omega
        | succ later =>
            rw [List.getElem?_cons_succ]
            constructor
            · intro here
              exact absurd rfl (marked "" (List.mem_of_getElem? here)).ne_empty
            · intro same
              omega

/-! Lines and blocks read off an output. -/

def linesOf (text : String) : List String := (Text.lines text.toList).map String.ofList

/-- The lines of a text, cut at every separator. -/
def blocksOf (text : String) : List (List String) :=
  let lines := linesOf text
  if lines = [] then [] else lines.splitOn separator

theorem Visible.not_mem {line : String} (visible : Visible line) {c : Char}
    (control : c.toNat < 0x20) : c ∉ line.toList :=
  fun member => visible c member (Or.inl control)

/-- Lines without control characters are the lines of the text that is written for them. -/
theorem linesOf_text {out : Output} (visible : ∀ line ∈ out.written, Visible line) :
    linesOf out.text = out.written := by
  rw [Output.text]
  generalize out.written = written at visible ⊢
  induction written with
  | nil => rfl
  | cons line written ih =>
      obtain ⟨here, later⟩ := List.forall_mem_cons.mp visible
      have feed : '\n' ∉ line.toList := here.not_mem (by decide)
      have back : '\r' ∉ line.toList := here.not_mem (by decide)
      have text : (String.join ((line :: written).map (· ++ "\n"))).toList =
          line.toList ++ '\n' :: (String.join (written.map (· ++ "\n"))).toList := by
        simp
      rw [linesOf, text, Text.lines_append_feed feed, Text.dropReturn_of_not_mem back,
        List.map_cons, String.ofList_toList]
      exact congrArg (line :: ·) (ih later)

theorem mem_intercalate {blocks : List (List String)} {line : String}
    (member : line ∈ [separator].intercalate blocks) :
    line = separator ∨ ∃ block ∈ blocks, line ∈ block := by
  induction blocks with
  | nil => cases member
  | cons first rest ih =>
      by_cases last : rest = []
      · subst last
        rw [List.intercalate_singleton] at member
        exact Or.inr ⟨first, List.mem_cons_self, member⟩
      · rw [List.intercalate_cons_of_ne_nil last, List.mem_append, List.mem_append,
          List.mem_singleton] at member
        rcases member with (inFirst | same) | later
        · exact Or.inr ⟨first, List.mem_cons_self, inFirst⟩
        · exact Or.inl same
        · refine (ih later).imp_right ?_
          rintro ⟨block, listed, inBlock⟩
          exact ⟨block, List.mem_cons_of_mem first listed, inBlock⟩

/-- An output of views with separators between them falls into the lines of these views. -/
theorem blocksOf_text {out : Output} {blocks : List (List String)}
    (views : ∀ block ∈ blocks, ∃ view, block = viewLines view)
    (written : out.written = [separator].intercalate blocks) : blocksOf out.text = blocks := by
  have visible : ∀ line ∈ out.written, Visible line := by
    intro line member
    rw [written] at member
    rcases mem_intercalate member with rfl | ⟨block, listed, inBlock⟩
    · exact visible_of_all (by decide)
    · obtain ⟨view, rfl⟩ := views block listed
      exact visible_of_mem_viewLines inBlock
  have inside : ∀ block ∈ blocks, separator ∉ block := by
    intro block listed
    obtain ⟨view, rfl⟩ := views block listed
    exact separator_not_mem_viewLines view
  rw [blocksOf, linesOf_text visible, written]
  cases blocks with
  | nil => rfl
  | cons first rest =>
      obtain ⟨view, rfl⟩ := views first List.mem_cons_self
      have lines : [separator].intercalate (viewLines view :: rest) ≠ [] := by
        cases rest <;> simp [viewLines, List.intercalate]
      simp only [if_neg lines]
      exact List.splitOn_intercalate separator inside (by simp)

end Display

/-! Blocks written one after another. -/

namespace Monitor

/-- Writes a block for each of the boards, until a line is refused. -/
def writeBlocks (m : Monitor) : List Board → Except OutputError Monitor
  | [] => .ok m
  | board :: rest =>
    match { m with board }.writeBlock with
    | (.ok (), after) => after.writeBlocks rest
    | (.error e, _) => .error e

variable {m after : Monitor} {boards : List Board}

theorem draws_of_writeBlocks (written : m.writeBlocks boards = .ok after) :
    m.Draws (boards.map Board.block) (.ok ()) after := by
  induction boards generalizing m with
  | nil =>
      cases written
      exact Draws.nothing after after.board
  | cons board boards ih =>
      unfold writeBlocks at written
      split at written
      · rename_i next first
        have drawn := (draws_writeBlock { m with board }).of_board
        rw [first] at drawn
        exact drawn.trans (ih written)
      · cases written

/-- An output that grants everything takes every block. -/
theorem exists_writeBlocks (grants : m.output.grantsAll = true) (boards : List Board) :
    ∃ after, m.writeBlocks boards = .ok after := by
  induction boards generalizing m with
  | nil => exact ⟨m, rfl⟩
  | cons board boards ih =>
      obtain ⟨output, taken, granting⟩ := Output.exists_write grants (blockLines { m with board })
      have first : { m with board }.writeBlock =
          (.ok (), { m with board, output, blocks := m.blocks + 1 }) := by
        simp only [writeBlock, taken]
      rw [writeBlocks, first]
      exact ih granting

end Monitor

namespace Transcript

theorem exists_view_of_mem_blocks {headings : Headings} {quiet : Bool} {calls : List Call}
    {block : List String} (member : block ∈ (ofCalls headings quiet calls).blocks) :
    ∃ view, block = Display.viewLines view := by
  induction calls using List.reverseRecOn with
  | nil => cases member
  | append_singleton calls last ih =>
      rw [ofCalls_concat] at member
      cases last with
      | start => exact ih member
      | session task url =>
          rw [blocks_session] at member
          rcases List.mem_append.mp member with before | now
          · exact ih before
          · obtain ⟨board, same⟩ := Board.exists_block_of_mem_due now
            exact ⟨board.view, same⟩

end Transcript

namespace Display

/-- What a reader can rely on in the lines of a view. -/
structure Legible (view : View) : Prop where
  length_eq : (viewLines view).length =
    1 + view.rows.length + view.report.elim 0 fun report => 2 + report.problems.length
  visible : ∀ line ∈ viewLines view, Visible line
  no_separator : separator ∉ viewLines view
  status_iff : ∀ (index : Nat) (line : String), (viewLines view)[index]? = some line →
    ("Progress: ".toList <+: line.toList ↔ index = 0)
  empty_iff : ∀ index : Nat, (viewLines view)[index]? = some "" ↔
    view.report.isSome = true ∧ index = 1 + view.rows.length
  heading_after : ∀ report, view.report = some report →
    (viewLines view)[2 + view.rows.length]? = some ("== " ++ plainText report.heading ++ " ==")

theorem legible (view : View) : Legible view := by
  refine ⟨length_viewLines view, fun _ => visible_of_mem_viewLines,
    separator_not_mem_viewLines view, fun _ _ => prefix_viewLines_iff,
    getElem?_viewLines_eq_empty_iff view, ?_⟩
  intro report present
  have length : (statusLine view :: view.rows.map rowLine).length = 1 + view.rows.length := by
    simp only [List.length_cons, List.length_map]
    omega
  rw [viewLines, List.getElem?_append_right (by omega), length, present,
    show 2 + view.rows.length - (1 + view.rows.length) = 1 by omega]
  rfl

/-- What a reader can rely on in a list to choose from. -/
structure LegibleOptions (options : List (String × String)) : Prop where
  length_eq : (optionLines options).length = options.length + 1
  visible : ∀ line ∈ optionLines options, Visible line
  first : (optionLines options)[0]? = some placeholder
  /-- The options stand in their order, one on each line. -/
  option : ∀ index : Nat, (optionLines options)[index + 1]? =
    options[index]?.map fun option => plainText option.1 ++ " (" ++ plainText option.2 ++ ")"

theorem legibleOptions (options : List (String × String)) : LegibleOptions options := by
  refine ⟨by simp [optionLines], ?_, rfl, ?_⟩
  · intro line member
    rcases List.mem_cons.mp member with rfl | listed
    · exact visible_of_all (by decide)
    · obtain ⟨option, _, rfl⟩ := List.mem_map.mp listed
      have bracket : Visible " (" := visible_of_all (by decide)
      have close : Visible ")" := visible_of_all (by decide)
      exact (((visible_plainText option.1).append bracket).append
        (visible_plainText option.2)).append close
  · intro index
    rw [optionLines, List.getElem?_cons_succ, List.getElem?_map]

/-- A text is shown character by character, and whatever the texts of a view are, its lines keep
their shape. So the blocks of any views that were written one after another can be read off the
output, and those of all sessions of a monitor. A list to choose from keeps its shape as well. -/
theorem blocks_recovered :
    (∀ text : String, Keeps (plainText text) text) ∧
      (∀ view : View, Legible view) ∧
      (∀ views : List View,
        blocksOf (Output.text { written := [separator].intercalate (views.map viewLines) }) =
          views.map viewLines) ∧
      (∀ (m : Monitor) (boards : List Board), m.blocks = 0 → m.output.written = [] →
        (m.output.grantsAll = true → ∃ after, m.writeBlocks boards = .ok after) ∧
          ∀ after, m.writeBlocks boards = .ok after →
            blocksOf after.output.text = boards.map fun board => viewLines board.view) ∧
      (∀ headings quiet calls,
        blocksOf (Usage.ofCalls headings quiet calls).monitor.output.text =
          (Transcript.ofCalls headings quiet calls).blocks) ∧
      ∀ options : List (String × String), LegibleOptions options := by
  refine ⟨keeps_plainText, legible, ?_, ?_, ?_, legibleOptions⟩
  · intro views
    refine blocksOf_text ?_ rfl
    intro block listed
    obtain ⟨view, _, same⟩ := List.mem_map.mp listed
    exact ⟨view, same.symm⟩
  · intro m boards fresh empty
    refine ⟨fun grants => Monitor.exists_writeBlocks grants boards, ?_⟩
    intro after written
    have held := Output.written_of_writeAll (Monitor.draws_of_writeBlocks written).output_eq
    rw [fresh, empty, List.nil_append, flatten_separated_zero] at held
    refine blocksOf_text ?_ held
    intro block listed
    obtain ⟨board, _, same⟩ := List.mem_map.mp listed
    exact ⟨board.view, same.symm⟩
  · intro headings quiet calls
    have written := (Usage.tracks_ofCalls headings quiet calls).follows.written_eq
    rw [Monitor.output_start] at written
    exact blocksOf_text (fun _ => Transcript.exists_view_of_mem_blocks) written

/-- A name, a comment and a problem that try to look like the end of a block and the start of the
next one. -/
theorem blocks_recovered_forged :
    let board := (Board.empty {}).acceptAll
      [.add "paper] 0\n----\nProgress: ", .note "paper] 0\n----\nProgress: " "\x1b[2J",
        .problems ["---", "\r\n"] true]
    ∃ after, Monitor.writeBlocks {} [board, board] = .ok after ∧
      blocksOf after.output.text = [viewLines board.view, viewLines board.view] := by
  intro board
  obtain ⟨granted, recovered⟩ := blocks_recovered.2.2.2.1 {} [board, board] rfl rfl
  obtain ⟨after, written⟩ := granted rfl
  exact ⟨after, written, recovered after written⟩

end Display

end Runboard
