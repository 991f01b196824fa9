import Mathlib.Data.List.Basic
import Runboard.Proofs.Board.Applied
import Runboard.Proofs.Keyed

set_option autoImplicit false

namespace Runboard.Board

/-- The row at the index has the name and still spins, and no later row has the name. -/
structure Standing (rows : List Row) (name : String) (index : Nat) : Prop where
  named : rows[index]?.map Row.name = some name
  spinning : rows[index]?.map Row.indicator = some .spinner
  last : ∀ later, index < later → rows[later]?.map Row.name ≠ some name

theorem Standing.present {rows : List Row} {name : String} {index : Nat}
    (standing : Standing rows name index) :
    ∃ row, rows[index]? = some row ∧ row.name = name ∧ row.indicator = .spinner := by
  obtain ⟨row, here, named⟩ := Option.map_eq_some_iff.mp standing.named
  have spinning := standing.spinning
  rw [here] at spinning
  exact ⟨row, here, named, Option.some.inj spinning⟩

theorem Standing.in_range {rows : List Row} {name : String} {index : Nat}
    (standing : Standing rows name index) : index < rows.length := by
  obtain ⟨row, here, _⟩ := standing.present
  exact (List.getElem?_eq_some_iff.mp here).1

private theorem map_snoc {α : Type} (f : Row → α) (rows : List Row) (row : Row) (index : Nat) :
    (rows ++ [row])[index]?.map f =
      if index = rows.length then some (f row) else rows[index]?.map f := by
  rw [List.getElem?_append]
  split
  · rw [if_neg (by omega)]
  · split
    · rename_i atEnd
      subst atEnd
      simp
    · rw [List.getElem?_eq_none (by simp only [List.length_singleton]; omega),
        List.getElem?_eq_none (by omega)]

/-- A new row takes its name over from every row before it. -/
theorem standing_snoc (rows : List Row) (name other : String) (index : Nat) :
    Standing (rows ++ [Row.create name]) other index ↔
      if name = other then index = rows.length else Standing rows other index := by
  have inside (standing : Standing (rows ++ [Row.create name]) other index) :
      index ≤ rows.length := by
    have := standing.in_range
    simp only [List.length_append, List.length_singleton] at this
    omega
  split
  · rename_i same
    subst same
    constructor
    · intro standing
      by_cases before : index < rows.length
      · exact absurd (by rw [map_snoc, if_pos rfl]; rfl) (standing.last rows.length before)
      · exact Nat.le_antisymm (inside standing) (by omega)
    · rintro rfl
      refine ⟨by rw [map_snoc, if_pos rfl]; rfl, by rw [map_snoc, if_pos rfl]; rfl, ?_⟩
      intro later after
      rw [map_snoc, if_neg (by omega), List.getElem?_eq_none (by omega)]
      simp
  · rename_i apart
    constructor
    · intro standing
      have before : index ≠ rows.length := by
        rintro rfl
        have named := standing.named
        rw [map_snoc, if_pos rfl] at named
        exact apart (Option.some.inj named)
      refine ⟨?_, ?_, ?_⟩
      · simpa [map_snoc, before] using standing.named
      · simpa [map_snoc, before] using standing.spinning
      · intro later after
        have ends := standing.last later after
        rw [map_snoc] at ends
        split at ends
        · rw [List.getElem?_eq_none (by omega)]
          simp
        · exact ends
    · intro standing
      have before := standing.in_range
      refine ⟨?_, ?_, ?_⟩
      · rw [map_snoc, if_neg (by omega)]
        exact standing.named
      · rw [map_snoc, if_neg (by omega)]
        exact standing.spinning
      · intro later after
        rw [map_snoc]
        split
        · simpa [Row.create] using apart
        · exact standing.last later after

private theorem names_modify (rows : List Row) (m : Message) (target index : Nat) :
    (rows.modify target m.edit)[index]?.map Row.name = rows[index]?.map Row.name := by
  rw [List.getElem?_modify]
  cases rows[index]? with
  | none => rfl
  | some row => by_cases same : target = index <;> simp [same]

private theorem indicators_modify (rows : List Row) (m : Message) (target index : Nat) :
    (rows.modify target m.edit)[index]?.map Row.indicator =
      if target = index ∧ m.kind = .finish then rows[index]?.map fun _ => .done
      else rows[index]?.map Row.indicator := by
  rw [List.getElem?_modify]
  cases rows[index]? with
  | none => simp
  | some row =>
      by_cases same : target = index <;> by_cases finish : m.kind = .finish <;>
        simp [same, finish, Message.indicator_edit]

/-- Editing the row a name stands for changes nothing about which names stand for which rows,
except that a finished row no longer stands for its name. -/
theorem standing_modify {rows : List Row} {name : String} {target : Nat} (m : Message)
    (found : Standing rows name target) (other : String) (index : Nat) :
    Standing (rows.modify target m.edit) other index ↔
      Standing rows other index ∧ ¬ (m.kind = .finish ∧ name = other) := by
  constructor
  · rintro ⟨named, spinning, last⟩
    simp only [names_modify] at named last
    rw [indicators_modify] at spinning
    split at spinning
    · cases here : rows[index]? <;> simp [here] at spinning
    · rename_i untouched
      refine ⟨⟨named, spinning, last⟩, ?_⟩
      rintro ⟨finish, rfl⟩
      -- Both rows have the name, so neither can come after the other.
      rcases Nat.lt_trichotomy index target with before | same | after
      · exact last target before found.named
      · exact untouched ⟨same.symm, finish⟩
      · exact found.last index after named
  · rintro ⟨standing, kept⟩
    refine ⟨?_, ?_, ?_⟩
    · rw [names_modify]
      exact standing.named
    · rw [indicators_modify, if_neg]
      · exact standing.spinning
      · rintro ⟨rfl, finish⟩
        have same := found.named.symm.trans standing.named
        exact kept ⟨finish, Option.some.inj same⟩
    · intro later after
      rw [names_modify]
      exact standing.last later after

/-- The map from names to rows is the one that the rows themselves tell. -/
structure Consistent (b : Board) : Prop where
  sorted : b.active.Sorted
  standing : ∀ name index, b.active.get? name = some index ↔ Standing b.rows name index

theorem consistent_empty (headings : Headings) : Consistent (.empty headings) := by
  refine ⟨Keyed.Sorted.nil, ?_⟩
  intro name index
  constructor
  · intro found
    cases found
  · intro standing
    cases standing.named

theorem sorted_edited {active : Keyed Nat} (sorted : active.Sorted) (m : Message)
    (name : String) : (if m.kind = .finish then active.erase name else active).Sorted := by
  split
  · exact sorted.erase name
  · exact sorted

/-- Only a message that finishes a row takes a name out of the map. -/
theorem get?_edited {active : Keyed Nat} (sorted : active.Sorted) (m : Message)
    (name other : String) :
    Keyed.get? other (if m.kind = .finish then active.erase name else active) =
      if m.kind = .finish ∧ name = other then none else active.get? other := by
  by_cases finish : m.kind = .finish
  · simp [finish, sorted.get?_erase]
  · simp [finish]

theorem Consistent.applied {b after : Board} {m : Message} (consistent : Consistent b)
    (applied : Applied b m after) : Consistent after := by
  cases applied with
  | add name =>
      refine ⟨consistent.sorted.insert name b.rows.length, ?_⟩
      intro other index
      simp only [addRow, Keyed.get?_insert, standing_snoc]
      split
      · exact ⟨fun found => (Option.some.inj found).symm, fun same => same ▸ rfl⟩
      · exact consistent.standing other index
  | @edit _ name target _ found =>
      have here := (consistent.standing name target).mp found
      refine ⟨sorted_edited consistent.sorted m name, ?_⟩
      intro other index
      dsimp only
      rw [get?_edited consistent.sorted, standing_modify m here,
        ← consistent.standing other index]
      split <;> simp_all
  | problems => exact ⟨consistent.sorted, consistent.standing⟩

/-- The boards that the operations can lead to. -/
inductive Reachable : Board → Prop
  | new : Reachable {}
  | empty (headings : Headings) : Reachable (.empty headings)
  | dispatch {b : Board} (reached : Reachable b) (frame : Json) :
      Reachable (b.dispatch frame).board
  | accept {b : Board} (reached : Reachable b) (m : Message) : Reachable (b.accept m).board
  | apply {b after : Board} {m : Message} (reached : Reachable b) (done : b.apply m = .ok after) :
      Reachable after
  | takeDirty {b : Board} (reached : Reachable b) : Reachable b.takeDirty.2

theorem Reachable.acceptAll {b : Board} (reached : Reachable b) (ms : List Message) :
    Reachable (b.acceptAll ms) := by
  induction ms generalizing b with
  | nil => exact reached
  | cons m ms ih => exact ih (reached.accept m)

theorem Consistent.accept {b : Board} (consistent : Consistent b) (m : Message) :
    Consistent (b.accept m).board := by
  rcases accept_cases b m with applied | ⟨_, same⟩
  · exact consistent.applied applied
  · rw [same]
    exact consistent

theorem Consistent.dispatch {b : Board} (consistent : Consistent b) (frame : Json) :
    Consistent (b.dispatch frame).board := by
  rcases dispatch_cases b frame with ⟨m, _, same⟩ | ⟨_, same⟩
  · rw [same]
    exact consistent.accept m
  · rw [same]
    exact consistent

theorem Consistent.dispatchAll {b : Board} (consistent : Consistent b) (frames : List Json) :
    Consistent (b.dispatchAll frames).board := by
  induction frames generalizing b with
  | nil => exact consistent
  | cons frame rest ih => exact ih (consistent.dispatch frame)

theorem Reachable.consistent {b : Board} (reachable : Reachable b) : Consistent b := by
  induction reachable with
  | new => exact consistent_empty {}
  | empty headings => exact consistent_empty headings
  | dispatch _ frame ih => exact ih.dispatch frame
  | accept _ m ih => exact ih.accept m
  | apply _ done ih => exact ih.applied (apply_eq_ok_iff.mp done)
  | takeDirty _ ih => exact ⟨ih.sorted, ih.standing⟩

theorem Consistent.mem_active_iff {b : Board} (consistent : Consistent b) (name : String)
    (index : Nat) : (name, index) ∈ b.active ↔ Standing b.rows name index := by
  rw [consistent.sorted.mem_iff, consistent.standing]

theorem getElem?_view_rows (b : Board) (index : Nat) :
    b.view.rows[index]? = b.rows[index]?.map fun row => b.viewRow row index := by
  simp only [view, List.getElem?_map, List.getElem?_zipIdx, Nat.zero_add, Option.map_map]
  rfl

def standingRows (b : Board) : List (Row × Nat) :=
  b.rows.zipIdx.filter fun entry => b.active.get? entry.1.name = some entry.2

theorem mem_standingRows {b : Board} {row : Row} {index : Nat} :
    (row, index) ∈ b.standingRows ↔
      b.rows[index]? = some row ∧ b.active.get? row.name = some index := by
  simp [standingRows, List.mem_filter, List.mk_mem_zipIdx_iff_getElem?]

/-- The rows flagged in the view are the standing rows. -/
theorem filter_view_rows (b : Board) :
    b.view.rows.filter RowView.active =
      b.standingRows.map fun entry => b.viewRow entry.1 entry.2 := by
  simp only [view, List.filter_map, standingRows]
  rfl

theorem standingRows_ordered (b : Board) :
    b.standingRows.Pairwise fun first second => first.2 < second.2 := by
  apply List.Pairwise.filter
  rw [← List.pairwise_map (f := Prod.snd) (R := (· < ·)), List.zipIdx_map_snd]
  exact List.pairwise_lt_range'

theorem Consistent.nodup_indices {b : Board} (consistent : Consistent b) :
    (b.active.map Prod.snd).Nodup := by
  refine List.pairwise_map.mpr (List.Pairwise.imp_of_mem ?_ consistent.sorted)
  rintro ⟨name, index⟩ ⟨other, _⟩ member member' before rfl
  have named := ((consistent.mem_active_iff name index).mp member).named
  have named' := ((consistent.mem_active_iff other index).mp member').named
  exact String.ne_of_lt before (Option.some.inj (named.symm.trans named'))

/-- Sorting the indices of the map lists the standing rows in the order of the board. -/
theorem Consistent.mergeSort_indices {b : Board} (consistent : Consistent b) :
    (b.active.map Prod.snd).mergeSort (· ≤ ·) = b.standingRows.map Prod.snd := by
  have increasing : (b.standingRows.map Prod.snd).Pairwise (· < ·) :=
    List.pairwise_map.mpr (standingRows_ordered b)
  have members (index : Nat) :
      index ∈ (b.active.map Prod.snd).mergeSort (· ≤ ·) ↔ index ∈ b.standingRows.map Prod.snd := by
    simp only [List.mem_mergeSort, List.mem_map, Prod.exists, exists_eq_right, mem_standingRows,
      consistent.sorted.mem_iff]
    constructor
    · rintro ⟨name, found⟩
      obtain ⟨row, here, named, _⟩ := ((consistent.standing name index).mp found).present
      exact ⟨row, here, named ▸ found⟩
    · rintro ⟨row, _, found⟩
      exact ⟨row.name, found⟩
  have permuted : ((b.active.map Prod.snd).mergeSort (· ≤ ·)).Perm (b.standingRows.map Prod.snd) :=
    (List.perm_ext_iff_of_nodup ((List.mergeSort_perm _ _).nodup_iff.mpr consistent.nodup_indices)
      (increasing.imp Nat.ne_of_lt)).mpr members
  have ordered : ((b.active.map Prod.snd).mergeSort (· ≤ ·)).Pairwise
      fun i j => decide (i ≤ j) = true :=
    List.pairwise_mergeSort
      (by simp only [decide_eq_true_eq]; exact fun _ _ _ => Nat.le_trans)
      (by simp only [Bool.or_eq_true, decide_eq_true_eq]; exact Nat.le_total) _
  refine permuted.eq_of_pairwise ?_ (ordered.imp of_decide_eq_true)
    (increasing.imp Nat.le_of_lt)
  intro i j _ _ below above
  exact Nat.le_antisymm below above

theorem Consistent.activeNames_eq {b : Board} (consistent : Consistent b) :
    b.activeNames = b.standingRows.map fun entry => entry.1.name := by
  simp only [activeNames, consistent.mergeSort_indices, List.filterMap_map]
  rw [List.filterMap_eq_map_iff_forall_eq_some]
  rintro ⟨row, index⟩ member
  simp [(mem_standingRows.mp member).1]

/-- Two rows of one name cannot both stand for it. -/
theorem Consistent.nodup_activeNames {b : Board} (consistent : Consistent b) :
    b.activeNames.Nodup := by
  rw [consistent.activeNames_eq]
  refine List.pairwise_map.mpr (List.Pairwise.imp_of_mem ?_ (standingRows_ordered b))
  rintro ⟨row, index⟩ ⟨other, later⟩ member member' before same
  have standing := (consistent.standing _ _).mp (mem_standingRows.mp member).2
  refine standing.last later before ?_
  rw [(mem_standingRows.mp member').1]
  exact congrArg some same.symm

theorem Consistent.mem_activeNames_iff {b : Board} (consistent : Consistent b) (name : String) :
    name ∈ b.activeNames ↔ b.isActive name = true := by
  simp only [consistent.activeNames_eq, List.mem_map, Prod.exists, mem_standingRows, isActive,
    Option.isSome_iff_exists]
  constructor
  · rintro ⟨row, index, ⟨_, found⟩, rfl⟩
    exact ⟨index, found⟩
  · rintro ⟨index, found⟩
    obtain ⟨row, here, named, _⟩ := ((consistent.standing name index).mp found).present
    exact ⟨row, index, ⟨here, named ▸ found⟩, named⟩

theorem Consistent.activeNames_eq_flagged {b : Board} (consistent : Consistent b) :
    b.activeNames = (b.view.rows.filter RowView.active).map RowView.name := by
  rw [consistent.activeNames_eq, filter_view_rows, List.map_map]
  rfl

theorem Consistent.activeCount_eq {b : Board} (consistent : Consistent b) :
    b.view.activeCount = (b.view.rows.filter RowView.active).length := by
  have lengths := congrArg List.length consistent.mergeSort_indices
  simp only [List.length_mergeSort, List.length_map] at lengths
  rw [filter_view_rows, List.length_map]
  exact lengths

/-- A row is flagged exactly if it still spins and is the last one of its name. -/
theorem Consistent.flagged_iff {b : Board} (consistent : Consistent b) {index : Nat}
    {row : RowView} (here : b.view.rows[index]? = some row) :
    row.active = true ↔ row.indicator = .spinner ∧
      ∀ later, index < later → b.view.rows[later]?.map RowView.name ≠ some row.name := by
  rw [getElem?_view_rows] at here
  obtain ⟨entry, present, rfl⟩ := Option.map_eq_some_iff.mp here
  have names (later : Nat) :
      b.view.rows[later]?.map RowView.name = b.rows[later]?.map Row.name := by
    rw [getElem?_view_rows, Option.map_map]
    rfl
  simp only [viewRow, decide_eq_true_eq, consistent.standing, names]
  constructor
  · intro standing
    refine ⟨?_, standing.last⟩
    simpa [present] using standing.spinning
  · rintro ⟨spinning, last⟩
    exact ⟨by rw [present]; rfl, by rw [present, Option.map_some, spinning], last⟩

theorem Consistent.count_flagged {b : Board} (consistent : Consistent b) (name : String) :
    b.view.rows.countP (fun row => row.active && row.name == name) =
      if b.isActive name = true then 1 else 0 := by
  have counted : b.view.rows.countP (fun row => row.active && row.name == name) =
      b.activeNames.count name := by
    rw [consistent.activeNames_eq_flagged, List.count, List.countP_map, List.countP_filter]
    exact List.countP_congr fun row _ => by simp [Bool.and_comm]
  rw [counted, consistent.nodup_activeNames.count]
  simp only [consistent.mem_activeNames_iff]

theorem Consistent.row?_eq {b : Board} (consistent : Consistent b) {name : String} {index : Nat}
    (found : b.active.get? name = some index) :
    ∃ row, b.rows[index]? = some row ∧ row.name = name ∧ b.row? name = some row := by
  obtain ⟨row, here, named, _⟩ := ((consistent.standing name index).mp found).present
  exact ⟨row, here, named, by simp [row?, found, here]⟩

/-- All that a board says about what is active, told by its rows. -/
structure Coherent (b : Board) : Prop where
  /-- The map has a pair exactly if its row stands for its name. -/
  mem_active_iff : ∀ name index, (name, index) ∈ b.active ↔ Standing b.rows name index
  /-- Looking up a row finds the one the map points at. -/
  row_found : ∀ name index, b.active.get? name = some index →
    ∃ row, b.rows[index]? = some row ∧ row.name = name ∧ b.row? name = some row
  /-- Changing a row changes the one the map points at. -/
  change_found : ∀ kind name index change, b.active.get? name = some index →
    ∃ row, b.rows[index]? = some row ∧ b.modifyRow kind name change =
      .ok { b with rows := b.rows.set index (change row), dirty := true }
  /-- Listing the active names looks at rows of the board only. -/
  indices_found : ∀ index ∈ b.active.map Prod.snd, index < b.rows.length
  /-- A row is flagged exactly if it still spins and is the last one of its name. -/
  flagged_iff : ∀ (index : Nat) (row : RowView), b.view.rows[index]? = some row →
    (row.active = true ↔ row.indicator = .spinner ∧
      ∀ later, index < later → b.view.rows[later]?.map RowView.name ≠ some row.name)
  activeNames_nodup : b.activeNames.Nodup
  activeNames_eq : b.activeNames = (b.view.rows.filter RowView.active).map RowView.name
  activeCount_eq : b.view.activeCount = (b.view.rows.filter RowView.active).length
  isActive_iff_row : ∀ name, b.isActive name = true ↔ (b.row? name).isSome = true
  /-- A name is active exactly if one row of that name is flagged, and no second one. -/
  isActive_iff_flagged : ∀ name, b.isActive name = true ↔
    b.view.rows.countP (fun row => row.active && row.name == name) = 1

/-- Whatever is done to a board, its map and its rows tell the same about what is active. -/
theorem coherent_of_reachable {b : Board} (reachable : Reachable b) : Coherent b := by
  have consistent := reachable.consistent
  refine ⟨consistent.mem_active_iff, fun _ _ => consistent.row?_eq, ?_, ?_,
    fun _ _ => consistent.flagged_iff, consistent.nodup_activeNames,
    consistent.activeNames_eq_flagged, consistent.activeCount_eq, ?_, ?_⟩
  · intro kind name index change found
    obtain ⟨row, here, _, _⟩ := consistent.row?_eq found
    refine ⟨row, here, ?_⟩
    simp [modifyRow, found, List.modify_eq_set_getElem?, here]
  · intro index member
    obtain ⟨⟨name, _⟩, inMap, rfl⟩ := List.mem_map.mp member
    exact ((consistent.mem_active_iff _ _).mp inMap).in_range
  · intro name
    simp only [isActive, Option.isSome_iff_exists]
    constructor
    · rintro ⟨index, found⟩
      obtain ⟨row, _, _, same⟩ := consistent.row?_eq found
      exact ⟨row, same⟩
    · rintro ⟨row, found⟩
      obtain ⟨index, looked, _⟩ := Option.bind_eq_some_iff.mp found
      exact ⟨index, looked⟩
  · intro name
    rw [consistent.count_flagged]
    split <;> simp_all

/-- A name that was added twice, finished and added once more stands for the last of its rows. -/
theorem coherent_reused_name :
    let b := (Board.empty {}).acceptAll
      [.add "paper", .add "paper", .finish "paper" "read", .add "paper"]
    b.active = [("paper", 2)] ∧ Reachable b ∧ Coherent b := by
  have reachable := (Reachable.empty {}).acceptAll
    [.add "paper", .add "paper", .finish "paper" "read", .add "paper"]
  exact ⟨by decide, reachable, coherent_of_reachable reachable⟩

end Runboard.Board
