import Runboard.Proofs.Board.Consistency

set_option autoImplicit false

/-!
Messages that have nothing to do with each other may change places.

A run of messages is made of strands: the messages about each name, the messages that add rows,
and the reports. Two messages without a common strand can arrive in either order, also if one of
them is refused. So runs with the same strands lead to the same board.
-/

namespace Runboard

/-- The parts of a run whose order counts. -/
inductive Strand
  /-- Rows are shown in the order in which they are added. -/
  | adds
  /-- The messages about a name, with those that add it. -/
  | row (name : String)
  | reports

def Strand.holds : Strand → Message → Bool
  | .adds, m => m.kind = .add
  | .row name, m => m.rowName? = some name
  | .reports, m => m.kind = .problems

namespace Message

/-- The messages have no strand in common. -/
def Independent (m m' : Message) : Prop :=
  ∀ strand : Strand, strand.holds m = true → strand.holds m' = false

/-- No message stands outside all strands. -/
theorem exists_strand (m : Message) : ∃ strand : Strand, strand.holds m = true := by
  cases named : m.rowName? with
  | some name => exact ⟨.row name, by simp [Strand.holds, named]⟩
  | none =>
      cases m <;> cases named
      exact ⟨.reports, rfl⟩

theorem rowName?_of_target {m : Message} {name : String} (target : m.target? = some name) :
    m.rowName? = some name := by
  cases m <;> cases target <;> rfl

/-- A message adds a row, edits one, or puts up a report. -/
theorem add_or_target_or_problems (m : Message) :
    (∃ name, m = .add name) ∨ (∃ name, m.target? = some name) ∨
      ∃ items isFinal, m = .problems items isFinal := by
  cases m <;> simp [target?]

end Message

namespace Board

variable {b : Board} {m m' : Message}

/-- The board whose row at an index is edited, which is the one a name stands for. -/
def editRow (b : Board) (m : Message) (name : String) (index : Nat) : Board :=
  { b with
    rows := b.rows.modify index m.edit
    active := if m.kind = .finish then b.active.erase name else b.active
    dirty := true }

theorem board_accept_of_target {name : String} (b : Board) (target : m.target? = some name) :
    (b.accept m).board =
      match b.active.get? name with
      | none => b
      | some index => b.editRow m name index := by
  unfold accept
  rw [apply_target target]
  cases b.active.get? name <;> rfl

/-- The two messages lead to the same board in either order. -/
def Commutes (b : Board) (m m' : Message) : Prop :=
  ((b.accept m).board.accept m').board = ((b.accept m').board.accept m).board

/-- Whether a name stands for a row does not depend on reports. -/
theorem commutes_problems_target {name : String} (items : List String) (isFinal : Bool)
    (target : m.target? = some name) : Commutes b (.problems items isFinal) m := by
  unfold Commutes
  rw [board_accept_of_target _ target, board_accept_of_target b target]
  have kept : (b.accept (.problems items isFinal)).board.active.get? name =
      b.active.get? name := rfl
  rw [kept]
  cases b.active.get? name <;> rfl

theorem modify_snoc_of_lt (rows : List Row) (row : Row) (edit : Row → Row) {index : Nat}
    (inside : index < rows.length) :
    (rows ++ [row]).modify index edit = rows.modify index edit ++ [row] := by
  apply List.ext_getElem?
  intro i
  by_cases before : i < rows.length
  · simp only [List.getElem?_modify, List.getElem?_append, List.length_modify, before, ↓reduceIte]
  · have apart : index ≠ i := by omega
    simp only [List.getElem?_modify, List.getElem?_append, List.length_modify, before, apart,
      ↓reduceIte, Option.map_eq_map, Option.map_id']

/-- A name can be given to a new row before or after another one is released. -/
theorem edited_insert {active : Keyed Nat} (sorted : active.Sorted) (m : Message)
    {name other : String} (apart : name ≠ other) (index : Nat) :
    (if m.kind = .finish then (active.insert name index).erase other
      else active.insert name index) =
      Keyed.insert name index (if m.kind = .finish then active.erase other else active) := by
  have inserted := sorted.insert name index
  have released := sorted_edited sorted m other
  refine (sorted_edited inserted m other).ext (released.insert name index) ?_
  intro key
  rw [get?_edited inserted, Keyed.get?_insert, Keyed.get?_insert, get?_edited sorted]
  by_cases same : name = key
  · subst same
    simp [Ne.symm apart]
  · simp [same]

/-- Names can be released in either order. -/
theorem edited_edited {active : Keyed Nat} (sorted : active.Sorted) (m m' : Message)
    (name other : String) :
    (if m'.kind = .finish then
        Keyed.erase other (if m.kind = .finish then active.erase name else active)
      else if m.kind = .finish then active.erase name else active) =
      if m.kind = .finish then
        Keyed.erase name (if m'.kind = .finish then active.erase other else active)
      else if m'.kind = .finish then active.erase other else active := by
  have first := sorted_edited sorted m name
  have second := sorted_edited sorted m' other
  refine (sorted_edited first m' other).ext (sorted_edited second m name) ?_
  intro key
  rw [get?_edited first, get?_edited second, get?_edited sorted, get?_edited sorted]
  split <;> split <;> rfl

/-- A new row comes after all others, so it makes no difference to the row that is edited. -/
theorem editRow_addRow (sorted : b.active.Sorted) {name other : String} (apart : name ≠ other)
    {index : Nat} (inside : index < b.rows.length) :
    (b.addRow name).editRow m other index = (b.editRow m other index).addRow name := by
  simp only [editRow, addRow, modify_snoc_of_lt _ _ _ inside, List.length_modify,
    edited_insert sorted m apart]

theorem editRow_editRow (sorted : b.active.Sorted) (name other : String) {index index' : Nat}
    (apart : index ≠ index') :
    (b.editRow m name index).editRow m' other index' =
      (b.editRow m' other index').editRow m name index := by
  simp only [editRow, List.modify_modify_ne _ _ _ apart, edited_edited sorted m m' name other]

theorem Consistent.commutes_add_target (consistent : Consistent b) {name other : String}
    (target : m.target? = some other) (apart : name ≠ other) : Commutes b (.add name) m := by
  have arrived (b : Board) : (b.accept (.add name)).board = b.addRow name := rfl
  have kept : (b.addRow name).active.get? other = b.active.get? other := by
    simp only [addRow, Keyed.get?_insert, apart, ↓reduceIte]
  unfold Commutes
  rw [arrived, arrived, board_accept_of_target _ target, board_accept_of_target b target, kept]
  cases found : b.active.get? other with
  | none => rfl
  | some index =>
      have inside := ((consistent.standing other index).mp found).in_range
      exact editRow_addRow consistent.sorted apart inside

theorem get?_editRow_ne (sorted : b.active.Sorted) {name other : String} (apart : name ≠ other)
    (index : Nat) : (b.editRow m name index).active.get? other = b.active.get? other := by
  simp only [editRow, get?_edited sorted, apart, and_false, ↓reduceIte]

/-- Different names stand for different rows, and finishing one of these keeps the other. -/
theorem Consistent.commutes_targets (consistent : Consistent b) {name other : String}
    (target : m.target? = some name) (target' : m'.target? = some other)
    (apart : name ≠ other) : Commutes b m m' := by
  have kept := get?_editRow_ne (m := m) consistent.sorted apart
  have kept' := get?_editRow_ne (m := m') consistent.sorted (Ne.symm apart)
  unfold Commutes
  rw [board_accept_of_target b target, board_accept_of_target b target',
    board_accept_of_target _ target', board_accept_of_target _ target]
  cases found : b.active.get? name with
  | none =>
      cases found' : b.active.get? other with
      | none => simp only [found]
      | some index' => simp only [found, kept']
  | some index =>
      cases found' : b.active.get? other with
      | none => simp only [found, found', kept]
      | some index' =>
          simp only [found, found', kept, kept']
          apply editRow_editRow consistent.sorted
          rintro rfl
          have named := ((consistent.standing name index).mp found).named
          have named' := ((consistent.standing other index).mp found').named
          exact apart (Option.some.inj (named.symm.trans named'))

theorem Commutes.symm (commutes : Commutes b m m') : Commutes b m' m := Eq.symm commutes

/-- Messages without a common strand can change places. -/
theorem Consistent.commutes (consistent : Consistent b) (independent : m.Independent m') :
    Commutes b m m' := by
  have names_apart {name other : String} (named : m.rowName? = some name)
      (named' : m'.rowName? = some other) : name ≠ other := by
    rintro rfl
    have outside := independent (.row name) (by simp [Strand.holds, named])
    simp [Strand.holds, named'] at outside
  rcases m.add_or_target_or_problems with ⟨name, rfl⟩ | ⟨name, target⟩ | ⟨items, isFinal, rfl⟩
  · rcases m'.add_or_target_or_problems with ⟨other, rfl⟩ | ⟨other, target'⟩ | ⟨_, _, rfl⟩
    · exact absurd (independent .adds rfl) (by simp [Strand.holds, Message.kind])
    · exact consistent.commutes_add_target target'
        (names_apart rfl (Message.rowName?_of_target target'))
    · rfl
  · have named := Message.rowName?_of_target target
    rcases m'.add_or_target_or_problems with ⟨other, rfl⟩ | ⟨other, target'⟩ | ⟨_, _, rfl⟩
    · exact (consistent.commutes_add_target target (Ne.symm (names_apart named rfl))).symm
    · exact consistent.commutes_targets target target'
        (names_apart named (Message.rowName?_of_target target'))
    · exact (commutes_problems_target _ _ target).symm
  · rcases m'.add_or_target_or_problems with ⟨other, rfl⟩ | ⟨other, target'⟩ | ⟨_, _, rfl⟩
    · rfl
    · exact commutes_problems_target _ _ target'
    · exact absurd (independent .reports rfl) (by simp [Strand.holds, Message.kind])

/-- A message can be taken ahead of all messages that share no strand with it. -/
theorem Consistent.acceptAll_move (consistent : Consistent b) {before : List Message}
    (independent : ∀ first ∈ before, first.Independent m) (after : List Message) :
    b.acceptAll (before ++ m :: after) = b.acceptAll (m :: (before ++ after)) := by
  induction before generalizing b with
  | nil => rfl
  | cons first before ih =>
      have later := ih (consistent.accept first)
        fun other member => independent other (List.mem_cons_of_mem first member)
      have swapped : Commutes b first m :=
        consistent.commutes (independent first List.mem_cons_self)
      calc b.acceptAll (first :: before ++ m :: after)
          = (b.accept first).board.acceptAll (m :: (before ++ after)) := later
        _ = ((b.accept first).board.accept m).board.acceptAll (before ++ after) := rfl
        _ = ((b.accept m).board.accept first).board.acceptAll (before ++ after) := by rw [swapped]
        _ = b.acceptAll (m :: (first :: before ++ after)) := rfl

end Board

def SameStrands (u v : List Message) : Prop :=
  ∀ strand : Strand, u.filter strand.holds = v.filter strand.holds

theorem SameStrands.eq_nil {v : List Message} (same : SameStrands [] v) : v = [] := by
  cases v with
  | nil => rfl
  | cons m v =>
      obtain ⟨strand, belongs⟩ := m.exists_strand
      have strands := same strand
      rw [List.filter_nil, List.filter_cons_of_pos belongs] at strands
      cases strands

/-- The first message of one run can be taken out of the other, where nothing before it shares a
strand with it. -/
theorem SameStrands.uncons {m : Message} {u v : List Message} (same : SameStrands (m :: u) v) :
    ∃ before after, v = before ++ m :: after ∧ (∀ first ∈ before, first.Independent m) ∧
      SameStrands u (before ++ after) := by
  obtain ⟨home, atHome⟩ := m.exists_strand
  have strand_home := same home
  rw [List.filter_cons_of_pos atHome] at strand_home
  obtain ⟨before, after, rfl, outside, _, _⟩ := List.filter_eq_cons_iff.mp strand_home.symm
  -- On each strand of `m` the other run has `m` first, and `m` does not come in `before`.
  have clear {strand : Strand} (belongs : strand.holds m = true) :
      before.filter strand.holds = [] := by
    have strands := same strand
    rw [List.filter_cons_of_pos belongs, List.filter_append] at strands
    cases earlier : before.filter strand.holds with
    | nil => rfl
    | cons first rest =>
        rw [earlier, List.cons_append] at strands
        obtain ⟨rfl, _⟩ := List.cons.inj strands
        have member : m ∈ before.filter strand.holds := by
          rw [earlier]
          exact List.mem_cons_self
        exact absurd atHome (outside m (List.mem_filter.mp member).1)
  refine ⟨before, after, rfl, ?_, ?_⟩
  · intro first member strand belongs
    cases shared : strand.holds m with
    | false => rfl
    | true => exact absurd belongs (List.filter_eq_nil_iff.mp (clear shared) first member)
  · intro strand
    have strands := same strand
    rw [List.filter_append] at strands ⊢
    cases belongs : strand.holds m with
    | false => rwa [List.filter_cons_of_neg (by simp [belongs]),
        List.filter_cons_of_neg (by simp [belongs])] at strands
    | true =>
        rw [List.filter_cons_of_pos belongs, List.filter_cons_of_pos belongs, clear belongs,
          List.nil_append] at strands
        rw [clear belongs, List.nil_append]
        exact (List.cons.inj strands).2

namespace Board

theorem Consistent.acceptAll_eq_of_sameStrands {b : Board} (consistent : Consistent b)
    {u v : List Message} (same : SameStrands u v) : b.acceptAll u = b.acceptAll v := by
  induction u generalizing b v with
  | nil => rw [same.eq_nil]
  | cons m u ih =>
      obtain ⟨before, after, rfl, independent, rest⟩ := same.uncons
      rw [consistent.acceptAll_move independent, acceptAll_cons, acceptAll_cons]
      exact ih (consistent.accept m) rest

/-- Only the order of the messages about each name, of those that add rows and of the reports
counts for the board. -/
theorem acceptAll_eq_of_same_subsequences {b : Board} (reachable : Reachable b)
    {u v : List Message} (adds : u.filter (·.kind = .add) = v.filter (·.kind = .add))
    (rows : ∀ name, u.filter (·.rowName? = some name) = v.filter (·.rowName? = some name))
    (reports : u.filter (·.kind = .problems) = v.filter (·.kind = .problems)) :
    b.acceptAll u = b.acceptAll v := by
  apply reachable.consistent.acceptAll_eq_of_sameStrands
  intro strand
  cases strand with
  | adds => exact adds
  | row name => exact rows name
  | reports => exact reports

/-- The order of two messages that add rows shows on the board. -/
example :
    (Board.empty {}).acceptAll [.add "paper", .add "person"] ≠
      (Board.empty {}).acceptAll [.add "person", .add "paper"] := by
  decide

/-- Two rows are counted and finished side by side, with a comment that comes too late and a
counter for a name that was never added. -/
theorem acceptAll_side_by_side :
    let b := (Board.empty {}).acceptAll [.add "paper", .add "person"]
    let u := [.update "paper" ⟨"3/10"⟩, .finish "person" "found 40", .note "person" "late",
      .add "body", .problems ["no id"] false, .update "ghost" ⟨"1"⟩, .finish "paper" "read"]
    let v := [.problems ["no id"] false, .finish "person" "found 40", .update "ghost" ⟨"1"⟩,
      .update "paper" ⟨"3/10"⟩, .finish "paper" "read", .note "person" "late", .add "body"]
    b.Reachable ∧ (b.acceptAll u).active = [("body", 2)] ∧ b.acceptAll u = b.acceptAll v := by
  intro b u v
  have reachable : b.Reachable := (Reachable.empty {}).acceptAll _
  have rows (name : String) :
      u.filter (·.rowName? = some name) = v.filter (·.rowName? = some name) := by
    by_cases paper : "paper" = name
    · subst paper
      rfl
    by_cases person : "person" = name
    · subst person
      rfl
    by_cases body : "body" = name
    · subst body
      rfl
    simp [u, v, List.filter_cons, Message.rowName?, paper, person, body]
  exact ⟨reachable, by decide, acceptAll_eq_of_same_subsequences reachable rfl rows rfl⟩

end Board

end Runboard
