import Runboard.Feed.Run

set_option autoImplicit false

namespace Runboard

namespace Text

theorem dropReturn_concat (line : List Char) : dropReturn (line ++ ['\r']) = line := by
  induction line with
  | nil => rfl
  | cons c line ih =>
      rw [List.cons_append, dropReturn, ih]
      intro _ empty
      cases line <;> cases empty

theorem dropReturn_of_not_mem {line : List Char} (absent : '\r' ∉ line) :
    dropReturn line = line := by
  induction line with
  | nil => rfl
  | cons c line ih =>
      have later := ih fun member => absent (List.mem_cons_of_mem c member)
      rw [dropReturn, later]
      intro same _
      exact absent (same ▸ List.mem_cons_self)

theorem dropReturn_sublist (line : List Char) : (dropReturn line).Sublist line := by
  fun_induction dropReturn line with
  | case1 => exact List.Sublist.refl []
  | case2 => exact List.nil_sublist _
  | case3 c rest _ ih => exact ih.cons_cons c

theorem splitFeeds_of_not_mem {line : List Char} (oneLine : '\n' ∉ line) :
    splitFeeds line = (line, []) := by
  induction line with
  | nil => rfl
  | cons c line ih =>
      have later := ih fun member => oneLine (List.mem_cons_of_mem c member)
      have goesOn : c ≠ '\n' := fun same => oneLine (same ▸ List.mem_cons_self)
      simp only [splitFeeds, later, goesOn, ↓reduceIte]

theorem splitFeeds_append_feed {line : List Char} (oneLine : '\n' ∉ line) (rest : List Char) :
    splitFeeds (line ++ '\n' :: rest) = (line, (splitFeeds rest).1 :: (splitFeeds rest).2) := by
  induction line with
  | nil => simp only [List.nil_append, splitFeeds, ↓reduceIte]
  | cons c line ih =>
      have later := ih fun member => oneLine (List.mem_cons_of_mem c member)
      have goesOn : c ≠ '\n' := fun same => oneLine (same ▸ List.mem_cons_self)
      simp only [List.cons_append, splitFeeds, later, goesOn, ↓reduceIte]

/-- The first line feed ends the first line. -/
theorem lines_append_feed {line : List Char} (oneLine : '\n' ∉ line) (rest : List Char) :
    lines (line ++ '\n' :: rest) = dropReturn line :: lines rest := by
  simp only [lines, splitFeeds_append_feed oneLine, terminateLines]

/-- A text without line feeds is one line, unless it is empty. -/
theorem lines_of_not_mem {line : List Char} (oneLine : '\n' ∉ line) :
    lines line = if line = [] then [] else [line] := by
  simp only [lines, splitFeeds_of_not_mem oneLine]
  cases line <;> rfl

end Text

namespace Script

theorem readLine_of_blank {line : List Char} (blank : line.all Text.isBlank = true) :
    readLine line = .ok none := by
  rw [readLine, if_pos blank]

/-- A line with something on it that is no blank is read as JSON. -/
theorem readLine_of_parse {line : List Char} {frame : Json}
    (written : line.all Text.isBlank = false) (parsed : Json.parseChars line = .ok frame) :
    readLine line = .ok (some frame) := by
  rw [readLine, if_neg (Bool.eq_false_iff.mp written), parsed]
  rfl

theorem readLines_cons {line : List Char} {frame : Option Json} {rest : List (List Char)}
    {frames : List Json} {number : Nat} (first : readLine line = .ok frame)
    (later : readLines (number + 1) rest = .ok frames) :
    readLines number (line :: rest) = .ok (frame.toList ++ frames) := by
  simp only [readLines, first, later, bind, Except.bind, pure, Except.pure]

end Script

end Runboard
