import Mathlib.Data.List.Induction
import Runboard.Display

set_option autoImplicit false

namespace Runboard

namespace Display

/-- Blocks with their separators, if so many blocks have been written before. -/
def separated : Nat → List (List String) → List (List String)
  | _, [] => []
  | count, block :: rest =>
    (if count = 0 then block else separator :: block) :: separated (count + 1) rest

theorem separated_append (count : Nat) (first second : List (List String)) :
    separated count (first ++ second) =
      separated count first ++ separated (count + first.length) second := by
  induction first generalizing count with
  | nil => rfl
  | cons block rest ih =>
      have counted : count + 1 + rest.length = count + (block :: rest).length := by
        rw [List.length_cons]
        omega
      rw [List.cons_append, separated, ih, separated, List.cons_append, counted]

/-- Another block comes after a separator, unless it is the first. -/
theorem joined_append (separator : String) (blocks : List (List String)) (block : List String) :
    [separator].intercalate (blocks ++ [block]) =
      [separator].intercalate blocks ++ if blocks = [] then block else separator :: block := by
  induction blocks with
  | nil => simp
  | cons first rest ih =>
      rw [List.cons_append, List.intercalate_cons_of_ne_nil (by simp), ih]
      by_cases last : rest = []
      · simp [last]
      · simp [last, List.intercalate_cons_of_ne_nil last]

theorem flatten_separated_zero (blocks : List (List String)) :
    (separated 0 blocks).flatten = [separator].intercalate blocks := by
  induction blocks using List.reverseRecOn with
  | nil => rfl
  | append_singleton blocks block ih =>
      rw [separated_append, List.flatten_append, ih, joined_append, Nat.zero_add]
      simp [separated]

theorem ne_nil_of_mem_separated {count : Nat} {blocks : List (List String)}
    (lines : ∀ block ∈ blocks, block ≠ []) : ∀ group ∈ separated count blocks, group ≠ [] := by
  induction blocks generalizing count with
  | nil => simp [separated]
  | cons block rest ih =>
      obtain ⟨here, later⟩ := List.forall_mem_cons.mp lines
      intro group member
      rcases List.mem_cons.mp member with rfl | behind
      · split
        · exact here
        · exact List.cons_ne_nil _ _
      · exact ih later group behind

end Display

namespace Answers

/-- Every answer is yes. -/
def grantsAll (a : Answers) : Bool := a.listed.all id && a.after

theorem next_of_grantsAll {a : Answers} (grants : a.grantsAll = true) :
    ∃ rest, a.next = (true, rest) ∧ rest.grantsAll = true := by
  obtain ⟨listed, after⟩ := a
  cases listed with
  | nil =>
      have last : after = true := grants
      exact ⟨_, by rw [next, last], grants⟩
  | cons first rest =>
      simp only [grantsAll, List.all_cons, id, Bool.and_eq_true] at grants
      refine ⟨⟨rest, after⟩, by rw [next, grants.1.1], ?_⟩
      simp only [grantsAll, grants.1.2, grants.2, Bool.and_self]

end Answers

namespace Output

variable {out after : Output}

def grantsAll (out : Output) : Bool := out.lines.grantsAll && out.flushes.grantsAll

/-- Writes groups of lines one after another, until one of them fails. -/
def writeAll : Output → List (List String) → Output × Except OutputError Unit
  | out, [] => (out, .ok ())
  | out, lines :: rest =>
    match out.write lines with
    | (out, .ok ()) => out.writeAll rest
    | (out, .error e) => (out, .error e)

theorem writeAll_append_of_ok {first : List (List String)}
    (taken : out.writeAll first = (after, .ok ())) (second : List (List String)) :
    out.writeAll (first ++ second) = after.writeAll second := by
  induction first generalizing out with
  | nil =>
      cases taken
      rfl
  | cons lines rest ih =>
      rw [List.cons_append, writeAll]
      rw [writeAll] at taken
      split at taken
      · exact ih taken
      · cases taken

theorem writeAll_append_of_error {first : List (List String)} {e : OutputError}
    (failed : out.writeAll first = (after, .error e)) (second : List (List String)) :
    out.writeAll (first ++ second) = (after, .error e) := by
  induction first generalizing out with
  | nil => cases failed
  | cons lines rest ih =>
      rw [List.cons_append, writeAll]
      rw [writeAll] at failed
      split at failed
      · exact ih failed
      · exact failed

/-! What is taken stands behind what was there. -/

theorem written_of_writeLines {lines : List String}
    (taken : out.writeLines lines = (after, .ok ())) : after.written = out.written ++ lines := by
  induction lines generalizing out with
  | nil =>
      cases taken
      exact (List.append_nil _).symm
  | cons line rest ih =>
      rw [writeLines] at taken
      split at taken
      · rw [ih taken, List.append_assoc, List.singleton_append]
      · cases taken

theorem written_flush (out : Output) : out.flush.1.written = out.written := by
  unfold flush
  split <;> rfl

theorem written_of_write {lines : List String} (taken : out.write lines = (after, .ok ())) :
    after.written = out.written ++ lines := by
  unfold write at taken
  split at taken
  · rename_i between written
    have flushed := written_flush between
    rw [taken] at flushed
    rw [flushed, written_of_writeLines written]
  · cases taken

theorem written_of_writeAll {groups : List (List String)}
    (taken : out.writeAll groups = (after, .ok ())) :
    after.written = out.written ++ groups.flatten := by
  induction groups generalizing out with
  | nil =>
      cases taken
      exact (List.append_nil _).symm
  | cons lines rest ih =>
      rw [writeAll] at taken
      split at taken
      · rename_i between first
        rw [ih taken, written_of_write first, List.append_assoc, List.flatten_cons]
      · cases taken

/-! An output that grants everything takes all there is. -/

theorem exists_writeLines (grants : out.grantsAll = true) (lines : List String) :
    ∃ after, out.writeLines lines = (after, .ok ()) ∧ after.grantsAll = true := by
  induction lines generalizing out with
  | nil => exact ⟨out, rfl, grants⟩
  | cons line rest ih =>
      obtain ⟨further, flushes⟩ := Bool.and_eq_true_iff.mp grants
      obtain ⟨answers, next, granting⟩ := Answers.next_of_grantsAll further
      rw [writeLines, next]
      exact ih (Bool.and_eq_true_iff.mpr ⟨granting, flushes⟩)

theorem exists_write (grants : out.grantsAll = true) (lines : List String) :
    ∃ after, out.write lines = (after, .ok ()) ∧ after.grantsAll = true := by
  obtain ⟨between, written, granting⟩ := exists_writeLines grants lines
  obtain ⟨further, flushes⟩ := Bool.and_eq_true_iff.mp granting
  obtain ⟨answers, next, granted⟩ := Answers.next_of_grantsAll flushes
  refine ⟨{ between with flushes := answers }, ?_, Bool.and_eq_true_iff.mpr ⟨further, granted⟩⟩
  rw [write, written]
  simp only [flush, next]

theorem exists_writeAll (grants : out.grantsAll = true) (groups : List (List String)) :
    ∃ after, out.writeAll groups = (after, .ok ()) ∧ after.grantsAll = true := by
  induction groups generalizing out with
  | nil => exact ⟨out, rfl, grants⟩
  | cons lines rest ih =>
      obtain ⟨between, first, granting⟩ := exists_write grants lines
      rw [writeAll, first]
      exact ih granting

/-! An output with room for so many lines is full once it has refused one. -/

/-- The output takes so many lines more and then no other; a flush never fails. -/
structure Bounded (out : Output) (room : Nat) : Prop where
  lines_eq : out.lines = .upTo room
  flushes_eq : out.flushes = {}

/-- The output has come to have less room, and none if something was refused. -/
def Shrinks (room : Nat) (step : Output × Except OutputError Unit) : Prop :=
  ∃ left ≤ room, step.1.Bounded left ∧ (step.2 ≠ .ok () → left = 0)

variable {room : Nat}

theorem Shrinks.of_le {left : Nat} {step : Output × Except OutputError Unit}
    (shrinks : Shrinks left step) (less : left ≤ room) : Shrinks room step := by
  obtain ⟨last, least, bounded, full⟩ := shrinks
  exact ⟨last, Nat.le_trans least less, bounded, full⟩

theorem Bounded.writeLines (bounded : out.Bounded room) (lines : List String) :
    Shrinks room (out.writeLines lines) := by
  induction lines generalizing out room with
  | nil => exact ⟨room, Nat.le_refl room, bounded, fun failed => absurd rfl failed⟩
  | cons line rest ih =>
      rw [Output.writeLines, bounded.lines_eq]
      cases room with
      | zero => exact ⟨0, Nat.le_refl 0, ⟨rfl, bounded.flushes_eq⟩, fun _ => rfl⟩
      | succ room =>
          have next : { out with written := out.written ++ [line], lines := .upTo room }.Bounded
            room := ⟨rfl, bounded.flushes_eq⟩
          exact (ih next).of_le (Nat.le_succ room)

theorem Bounded.write (bounded : out.Bounded room) (lines : List String) :
    Shrinks room (out.write lines) := by
  obtain ⟨left, less, between, full⟩ := bounded.writeLines lines
  unfold Output.write
  split
  · rename_i next written
    rw [written] at between
    rw [flush, between.flushes_eq]
    exact ⟨left, less, ⟨between.lines_eq, rfl⟩, fun failed => absurd rfl failed⟩
  · rename_i next e failed
    rw [failed] at between full
    exact ⟨left, less, between, fun _ => full (by simp)⟩

theorem Bounded.writeAll (bounded : out.Bounded room) (groups : List (List String)) :
    Shrinks room (out.writeAll groups) := by
  induction groups generalizing out room with
  | nil => exact ⟨room, Nat.le_refl room, bounded, fun failed => absurd rfl failed⟩
  | cons lines rest ih =>
      obtain ⟨left, less, between, full⟩ := bounded.write lines
      rw [Output.writeAll]
      split
      · rename_i next first
        rw [first] at between
        exact (ih between).of_le less
      · rename_i next e failed
        rw [failed] at between full
        exact ⟨left, less, between, fun _ => full (by simp)⟩

/-- A full output takes nothing but what has no lines. -/
theorem Bounded.eq_nil_of_full (full : out.Bounded 0) {groups : List (List String)}
    (lines : ∀ group ∈ groups, group ≠ []) (taken : out.writeAll groups = (after, .ok ())) :
    groups = [] := by
  cases groups with
  | nil => rfl
  | cons group rest =>
      cases group with
      | nil => exact absurd rfl (lines [] List.mem_cons_self)
      | cons line more =>
          have refused : out.writeLines (line :: more) =
              ({ out with lines := .upTo 0 }, .error .refused) := by
            rw [Output.writeLines, full.lines_eq]
            rfl
          rw [Output.writeAll, Output.write, refused] at taken
          cases taken

end Output

end Runboard
