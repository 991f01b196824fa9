import Runboard.Proofs.Feed.Script
import Runboard.Proofs.Json.Trailing

set_option autoImplicit false

/-!
Scripts one behind the other.

A line feed between two texts parts their lines: what the second one gives does not hang on the
first, except that its lines have higher numbers. The one thing that happens at the seam is that a
carriage return at the end of the first text becomes part of a line end. To JSON it was a blank
before, so the line holds the same value as ever, or still holds none.
-/

namespace Runboard

namespace Text

theorem splitFeeds_eq_splitOn (text : List Char) :
    (splitFeeds text).1 :: (splitFeeds text).2 = text.splitOn '\n' := by
  induction text with
  | nil => rfl
  | cons c text ih =>
      rw [List.splitOn_cons_eq_if_modifyHead, ← ih]
      simp only [splitFeeds, beq_iff_eq]
      split <;> rfl

/-- A text has one piece more than it has line feeds. -/
theorem length_splitOn_feed (text : List Char) :
    (text.splitOn '\n').length = text.count '\n' + 1 := by
  induction text with
  | nil => rfl
  | cons c text ih =>
      rw [List.splitOn_cons_eq_if_modifyHead, List.count_cons]
      split
      · rw [List.length_cons, ih]
      · rw [List.length_modifyHead, ih, Nat.add_zero]

theorem terminateLines_append (head next : List Char) (tail rest : List (List Char)) :
    terminateLines head (tail ++ next :: rest) =
      (head :: tail).map dropReturn ++ terminateLines next rest := by
  induction tail generalizing head with
  | nil => rw [List.nil_append, terminateLines, List.map_singleton, List.singleton_append]
  | cons piece tail ih =>
      rw [List.cons_append, terminateLines, ih, List.map_cons, List.map_cons, List.map_cons,
        List.cons_append, List.cons_append, List.cons_append]

/-- In front of a line feed every piece is a line. -/
theorem lines_join (a b : List Char) :
    lines (a ++ '\n' :: b) = (a.splitOn '\n').map dropReturn ++ lines b := by
  have cut := splitFeeds_eq_splitOn (a ++ '\n' :: b)
  rw [List.splitOn_append_cons_self, ← splitFeeds_eq_splitOn a, ← splitFeeds_eq_splitOn b,
    List.cons_append] at cut
  obtain ⟨head, tail⟩ := List.cons.inj cut
  rw [← splitFeeds_eq_splitOn a]
  simp only [lines, head, tail, terminateLines_append]

/-- At the end of a text the last piece is a line as it stands, unless it is empty. -/
theorem lines_of_splitOn {text last : List Char} {init : List (List Char)}
    (cut : text.splitOn '\n' = init ++ [last]) :
    lines text = init.map dropReturn ++ terminateLines last [] := by
  rw [← splitFeeds_eq_splitOn] at cut
  cases init with
  | nil =>
      obtain ⟨head, tail⟩ := List.cons.inj cut
      simp only [lines, head, tail, List.map_nil, List.nil_append]
  | cons first init =>
      rw [List.cons_append] at cut
      obtain ⟨head, tail⟩ := List.cons.inj cut
      simp only [lines, head, tail, terminateLines_append]

theorem exists_last_piece (text : List Char) :
    ∃ init last, text.splitOn '\n' = init ++ [last] ∧ last <:+ text := by
  induction text with
  | nil => exact ⟨[], [], rfl, List.suffix_rfl⟩
  | cons c text ih =>
      obtain ⟨init, last, cut, suffix⟩ := ih
      rw [List.splitOn_cons_eq_if_modifyHead, cut]
      split
      · exact ⟨[] :: init, last, rfl, suffix.trans (List.suffix_cons c text)⟩
      · -- The character joins the first piece, which is the last one if there is no line feed.
        cases init with
        | cons first init =>
            exact ⟨(c :: first) :: init, last, rfl, suffix.trans (List.suffix_cons c text)⟩
        | nil =>
            have whole : ['\n'].intercalate (text.splitOn '\n') = text :=
              List.intercalate_splitOn '\n'
            rw [cut, List.nil_append, List.intercalate_singleton] at whole
            exact ⟨[], c :: last, rfl, whole ▸ List.suffix_rfl⟩

theorem dropReturn_eq (line : List Char) :
    dropReturn line = line ∨ line = dropReturn line ++ ['\r'] := by
  fun_induction dropReturn line with
  | case1 => exact Or.inl rfl
  | case2 => exact Or.inr rfl
  | case3 c rest _ ih =>
      refine ih.imp (congrArg (c :: ·)) fun ended => ?_
      rw [List.cons_append, ← ended]

theorem all_isBlank_dropReturn (line : List Char) :
    (dropReturn line).all isBlank = line.all isBlank := by
  cases dropReturn_eq line with
  | inl same => rw [same]
  | inr ended =>
      have blank : isBlank '\r' = true := by decide
      conv => rhs; rw [ended]
      rw [List.all_append, List.all_cons, blank, List.all_nil, Bool.and_true, Bool.and_true]

end Text

namespace Json

theorem readScalar_of_blank {c : Char} (blank : Text.isBlank c = true) (rest : List Char) :
    ∃ e, readScalar (c :: rest) = .error e := by
  have apart {d : Char} (visible : Text.isBlank d = false) : c ≠ d := by
    intro same
    rw [same, visible] at blank
    cases blank
  have digit : ¬ c.isDigit = true := by
    intro digit
    have range : 48 ≤ c.toNat ∧ c.toNat ≤ 57 := Char.isDigit_iff_toNat.mp digit
    simp only [Text.isBlank, Bool.or_eq_true, Bool.and_eq_true, decide_eq_true_eq,
      beq_iff_eq] at blank
    omega
  refine ⟨.atByte .expectedValue (c :: rest), ?_⟩
  rw [readScalar, if_neg digit]
  all_goals exact apart (by decide)

theorem value_of_blank {text : List Char} (blank : text.all Text.isBlank = true) (depth : Nat) :
    ∃ e, value depth text = .error e := by
  unfold value
  have kept : (skipSpaces text).all Text.isBlank = true :=
    List.all_eq_true.mpr fun c member =>
      List.all_eq_true.mp blank c ((List.dropWhile_sublist isSpace).mem member)
  cases starts : skipSpaces text with
  | nil => exact ⟨_, rfl⟩
  | cons c rest =>
      rw [starts, List.all_cons, Bool.and_eq_true] at kept
      split
      · rename_i bracket
        cases bracket
        cases kept.1
      · rename_i brace
        cases brace
        cases kept.1
      · exact readScalar_of_blank kept.1 rest

/-- White space alone is no JSON. -/
theorem not_blank_of_parseChars {text : List Char} {v : Json} (parsed : parseChars text = .ok v) :
    text.all Text.isBlank = false := by
  rw [Bool.eq_false_iff]
  intro blank
  obtain ⟨e, failed⟩ := value_of_blank blank maxDepth
  simp only [parseChars, readAll, failed, bind, Except.bind] at parsed
  cases parsed

end Json

namespace Script

/-- A line that holds something, but no JSON value. -/
def isFaulty (line : List Char) : Bool :=
  !line.all Text.isBlank && !(Json.parseChars line).isOk

def failedLine? {α : Type} : Except ScriptError α → Option Nat
  | .ok _ => none
  | .error e => some e.line

theorem failedLine?_map {α β : Type} (outcome : Except ScriptError α) (f : α → β) :
    failedLine? (do return f (← outcome)) = failedLine? outcome := by
  cases outcome <;> rfl

theorem isFaulty_eq (line : List Char) : isFaulty line = !(readLine line).isOk := by
  unfold isFaulty readLine
  cases line.all Text.isBlank with
  | true => rfl
  | false => cases Json.parseChars line <;> rfl

/-- A carriage return at the end of a line does not change its frame and does not mend the line. -/
theorem readLine_dropReturn (line : List Char) :
    (∃ frame, readLine (Text.dropReturn line) = .ok frame ∧ readLine line = .ok frame) ∨
      ∃ e e', readLine (Text.dropReturn line) = .error e ∧ readLine line = .error e' := by
  cases Text.dropReturn_eq line with
  | inl same =>
      rw [same]
      cases readLine line with
      | ok frame => exact Or.inl ⟨frame, rfl, rfl⟩
      | error e => exact Or.inr ⟨e, e, rfl, rfl⟩
  | inr ended =>
      have parsed := Json.parseChars_return (Text.dropReturn line)
      rw [← ended] at parsed
      unfold readLine
      rw [Text.all_isBlank_dropReturn]
      cases line.all Text.isBlank with
      | true => exact Or.inl ⟨none, rfl, rfl⟩
      | false =>
          cases parsed with
          | inl valid =>
              obtain ⟨v, plain, longer⟩ := valid
              rw [plain, longer]
              exact Or.inl ⟨some v, rfl, rfl⟩
          | inr invalid =>
              obtain ⟨e, e', plain, longer⟩ := invalid
              rw [plain, longer]
              exact Or.inr ⟨e, e', rfl, rfl⟩

theorem isFaulty_dropReturn (line : List Char) :
    isFaulty (Text.dropReturn line) = isFaulty line := by
  rw [isFaulty_eq, isFaulty_eq]
  cases readLine_dropReturn line with
  | inl valid =>
      obtain ⟨frame, plain, longer⟩ := valid
      rw [plain, longer]
  | inr invalid =>
      obtain ⟨e, e', plain, longer⟩ := invalid
      rw [plain, longer]
      rfl

theorem readLines_append (number : Nat) (lines more : List (List Char)) :
    readLines number (lines ++ more) = (do
      let before ← readLines number lines
      let after ← readLines (number + lines.length) more
      return before ++ after) := by
  induction lines generalizing number with
  | nil =>
      simp only [List.nil_append, readLines, List.length_nil, Nat.add_zero, bind, Except.bind]
      cases readLines number more <;> rfl
  | cons line lines ih =>
      simp only [List.cons_append, readLines, List.length_cons]
      cases readLine line with
      | error reason => rfl
      | ok frame =>
          have next : number + 1 + lines.length = number + (lines.length + 1) := by omega
          simp only [ih, next, bind, Except.bind, pure, Except.pure]
          cases readLines (number + 1) lines with
          | error e => rfl
          | ok before =>
              cases readLines (number + (lines.length + 1)) more with
              | error e => rfl
              | ok after => simp only [List.append_assoc]

/-- With other numbers the lines have the same frames, and the same one is at fault. -/
theorem readLines_shift (number shift : Nat) (lines : List (List Char)) :
    readLines (number + shift) lines =
      (readLines number lines).mapError fun e => ⟨e.line + shift, e.reason⟩ := by
  induction lines generalizing number with
  | nil => rfl
  | cons line lines ih =>
      simp only [readLines]
      cases readLine line with
      | error reason => rfl
      | ok frame =>
          have later := ih (number + 1)
          rw [Nat.add_right_comm] at later
          simp only [later, bind, Except.bind]
          cases readLines (number + 1) lines <;> rfl

/-- Reading stops at the first faulty line, and nowhere else. -/
theorem failedLine?_readLines (number : Nat) (lines : List (List Char)) :
    failedLine? (readLines number lines) = (lines.findIdx? isFaulty).map (· + number) := by
  induction lines generalizing number with
  | nil => rfl
  | cons line lines ih =>
      rw [List.findIdx?_cons, isFaulty_eq]
      cases read : readLine line with
      | error reason =>
          simp only [readLines, read]
          exact congrArg some (Nat.zero_add number).symm
      | ok frame =>
          simp only [readLines, read]
          rw [failedLine?_map, ih (number + 1)]
          cases lines.findIdx? isFaulty with
          | none => rfl
          | some index =>
              have next : index + (number + 1) = index + 1 + number := by omega
              exact congrArg some next

/-- The lines of a text are at fault where its pieces are. -/
theorem findIdx?_lines (text : List Char) :
    (Text.lines text).findIdx? isFaulty = (text.splitOn '\n').findIdx? isFaulty := by
  obtain ⟨init, last, cut, suffix⟩ := Text.exists_last_piece text
  have same : isFaulty ∘ Text.dropReturn = isFaulty := funext isFaulty_dropReturn
  have finish : (Text.terminateLines last []).findIdx? isFaulty = [last].findIdx? isFaulty := by
    cases last <;> rfl
  rw [Text.lines_of_splitOn cut, cut, List.findIdx?_append, List.findIdx?_append,
    List.findIdx?_map, same, List.length_map, finish]

/-- Both give the same frames, or they fail at the same line; if `kept` holds, for the same
reason. -/
inductive Agree (kept : Prop) :
    Except ScriptError (List Json) → Except ScriptError (List Json) → Prop
  | ok (frames : List Json) : Agree kept (.ok frames) (.ok frames)
  | error (line : Nat) (reason other : Json.ReadError) (same : kept → other = reason) :
      Agree kept (.error ⟨line, reason⟩) (.error ⟨line, other⟩)

theorem Agree.refl (kept : Prop) (outcome : Except ScriptError (List Json)) :
    Agree kept outcome outcome := by
  cases outcome with
  | ok frames => exact .ok frames
  | error e => exact .error e.line e.reason e.reason fun _ => rfl

theorem agree_last (last : List Char) (number : Nat) :
    Agree (last.getLast? ≠ some '\r') (readLines number (Text.terminateLines last []))
      (readLines number [Text.dropReturn last]) := by
  cases last with
  | nil => exact .ok []
  | cons c rest =>
      have line : Text.terminateLines (c :: rest) [] = [c :: rest] := rfl
      rw [line]
      cases Text.dropReturn_eq (c :: rest) with
      | inl same =>
          rw [same]
          exact .refl _ _
      | inr ended =>
          -- One line is read here in two ways, with its carriage return and without.
          cases readLine_dropReturn (c :: rest) with
          | inl valid =>
              obtain ⟨frame, plain, longer⟩ := valid
              rw [readLines_cons plain rfl, readLines_cons longer rfl]
              exact .ok _
          | inr invalid =>
              obtain ⟨e, e', plain, longer⟩ := invalid
              simp only [readLines, plain, longer]
              refine .error _ _ _ fun kept => (kept ?_).elim
              rw [ended, List.getLast?_append, List.getLast?_singleton, Option.some_or]

/-- A line feed at the end of a text changes no more than the reason for a fault in the last
line. -/
theorem agree_pieces (text : List Char) (number : Nat) :
    Agree (text.getLast? ≠ some '\r') (readLines number (Text.lines text))
      (readLines number ((text.splitOn '\n').map Text.dropReturn)) := by
  obtain ⟨init, last, cut, suffix⟩ := Text.exists_last_piece text
  have ends (kept : text.getLast? ≠ some '\r') : last.getLast? ≠ some '\r' := by
    intro carriage
    obtain ⟨front, whole⟩ := suffix
    apply kept
    rw [← whole, List.getLast?_append, carriage, Option.some_or]
  rw [Text.lines_of_splitOn cut, cut, List.map_append, readLines_append, readLines_append]
  cases readLines number (init.map Text.dropReturn) with
  | error e => exact .refl _ _
  | ok before =>
      have finish := agree_last last (number + (init.map Text.dropReturn).length)
      generalize readLines _ (Text.terminateLines last []) = plain at finish
      simp only [List.map_singleton, bind, Except.bind]
      generalize readLines _ [Text.dropReturn last] = longer at finish
      cases finish with
      | ok after => exact .ok _
      | error line reason other same => exact .error line reason other fun kept => same (ends kept)

theorem parse_eq_ok_iff {text : String} {frames : List Json} :
    parse text = .ok ⟨frames⟩ ↔ readLines 1 (Text.lines text.toList) = .ok frames := by
  unfold parse
  cases readLines 1 (Text.lines text.toList) with
  | error e => constructor <;> intro same <;> cases same
  | ok read => constructor <;> intro same <;> cases same <;> rfl

theorem parse_eq_error_iff {text : String} {e : ScriptError} :
    parse text = .error e ↔ readLines 1 (Text.lines text.toList) = .error e := by
  unfold parse
  cases readLines 1 (Text.lines text.toList) with
  | error found => constructor <;> intro same <;> cases same <;> rfl
  | ok read => constructor <;> intro same <;> cases same

theorem readLines_join (a b : String) :
    readLines 1 (Text.lines (a ++ "\n" ++ b).toList) = (do
      let before ← readLines 1 ((a.toList.splitOn '\n').map Text.dropReturn)
      let after ← (readLines 1 (Text.lines b.toList)).mapError fun e =>
        ⟨e.line + (a.toList.count '\n' + 1), e.reason⟩
      return before ++ after) := by
  have chars : (a ++ "\n" ++ b).toList = a.toList ++ '\n' :: b.toList := by simp
  rw [chars, Text.lines_join, readLines_append, List.length_map, Text.length_splitOn_feed,
    readLines_shift]

theorem parse_join_of_error {a : String} {e : ScriptError} (failed : parse a = .error e)
    (b : String) :
    ∃ e', parse (a ++ "\n" ++ b) = .error e' ∧ e'.line = e.line ∧
      (a.toList.getLast? ≠ some '\r' → e' = e) := by
  have agree := agree_pieces a.toList 1
  have joined := readLines_join a b
  rw [parse_eq_error_iff.mp failed] at agree
  generalize readLines 1 ((a.toList.splitOn '\n').map Text.dropReturn) = pieces at agree joined
  cases agree with
  | error line reason other same =>
      refine ⟨⟨line, other⟩, parse_eq_error_iff.mpr joined, rfl, fun kept => ?_⟩
      rw [same kept]

theorem readLines_join_of_ok {a : String} {before : Script} (read : parse a = .ok before)
    (b : String) :
    readLines 1 (Text.lines (a ++ "\n" ++ b).toList) = (do
      let after ← (readLines 1 (Text.lines b.toList)).mapError fun e =>
        ⟨e.line + (a.toList.count '\n' + 1), e.reason⟩
      return before.frames ++ after) := by
  have agree := agree_pieces a.toList 1
  have joined := readLines_join a b
  obtain ⟨frames⟩ := before
  rw [parse_eq_ok_iff.mp read] at agree
  generalize readLines 1 ((a.toList.splitOn '\n').map Text.dropReturn) = pieces at agree joined
  cases agree with
  | ok => exact joined

/-- A text without line feed that is not blank is one line. -/
theorem lines_of_not_blank {text : List Char} (oneLine : '\n' ∉ text)
    (written : text.all Text.isBlank = false) : Text.lines text = [text] := by
  rw [Text.lines_of_not_mem oneLine, if_neg]
  intro empty
  rw [empty] at written
  cases written

theorem parse_of_blank {text : String} (oneLine : '\n' ∉ text.toList)
    (blank : text.toList.all Text.isBlank = true) : parse text = .ok ⟨[]⟩ := by
  rw [parse_eq_ok_iff, Text.lines_of_not_mem oneLine]
  split
  · rfl
  · exact readLines_cons (readLine_of_blank blank) rfl

theorem parse_of_valid {text : String} {v : Json} (oneLine : '\n' ∉ text.toList)
    (valid : Json.parse text = .ok v) : parse text = .ok ⟨[v]⟩ := by
  have written := Json.not_blank_of_parseChars valid
  rw [parse_eq_ok_iff, lines_of_not_blank oneLine written]
  exact readLines_cons (readLine_of_parse written valid) rfl

theorem parse_of_invalid {text : String} {reason : Json.ReadError} (oneLine : '\n' ∉ text.toList)
    (written : text.toList.all Text.isBlank = false) (invalid : Json.parse text = .error reason) :
    parse text = .error ⟨1, reason⟩ := by
  have failed : readLine text.toList = .error reason := by
    rw [readLine, if_neg (Bool.eq_false_iff.mp written)]
    exact congrArg (some <$> ·) invalid
  rw [parse_eq_error_iff, lines_of_not_blank oneLine written]
  simp only [readLines, failed]

/-- Two texts with a line feed between them are read one after the other. If the first one fails,
so do both together, at the same line, and for the same reason unless a carriage return has become
part of the line feed. If only the second one fails, it does so at the line that it has behind the
lines of the first one. Else there are the frames of both.

A text without line feed gives nothing if it is blank, one frame if it is valid JSON, and else a
fault at line 1. Any text fails at the first of its lines that is neither blank nor valid JSON, and
the number counts all lines from 1. -/
theorem parse_compositional (a b : String) :
    (∀ e, parse a = .error e → ∃ e', parse (a ++ "\n" ++ b) = .error e' ∧ e'.line = e.line ∧
        (a.toList.getLast? ≠ some '\r' → e' = e)) ∧
      (∀ before e, parse a = .ok before → parse b = .error e →
        parse (a ++ "\n" ++ b) = .error ⟨a.toList.count '\n' + 1 + e.line, e.reason⟩) ∧
      (∀ before after, parse a = .ok before → parse b = .ok after →
        parse (a ++ "\n" ++ b) = .ok ⟨before.frames ++ after.frames⟩) ∧
      ('\n' ∉ a.toList →
        (a.toList.all Text.isBlank = true → parse a = .ok ⟨[]⟩) ∧
          (∀ v, Json.parse a = .ok v → parse a = .ok ⟨[v]⟩) ∧
          ∀ reason, a.toList.all Text.isBlank = false → Json.parse a = .error reason →
            parse a = .error ⟨1, reason⟩) ∧
      failedLine? (parse a) = ((a.toList.splitOn '\n').findIdx? isFaulty).map (· + 1) := by
  refine ⟨?_, ?_, ?_, ?_, ?_⟩
  · intro e failed
    exact parse_join_of_error failed b
  · intro before e read failed
    rw [parse_eq_error_iff, readLines_join_of_ok read b, parse_eq_error_iff.mp failed,
      Nat.add_comm _ e.line]
    rfl
  · intro before after readA readB
    rw [parse_eq_ok_iff, readLines_join_of_ok readA b, parse_eq_ok_iff.mp readB]
    rfl
  · intro oneLine
    exact ⟨parse_of_blank oneLine, fun v => parse_of_valid oneLine,
      fun reason => parse_of_invalid oneLine⟩
  · rw [parse, failedLine?_map, failedLine?_readLines, findIdx?_lines]

/-- A carriage return at the seam, blank lines on both sides of it, and a brace too many on the
fourth line. -/
theorem parse_compositional_seam :
    parse " \r\n7\r" = .ok ⟨[.number (.integer 7)]⟩ ∧
      parse "\n\x7d" = .error ⟨2, ⟨.expectedValue, some ⟨1, 1⟩⟩⟩ ∧
      parse (" \r\n7\r" ++ "\n" ++ "\n\x7d") = .error ⟨4, ⟨.expectedValue, some ⟨1, 1⟩⟩⟩ := by
  have before : parse " \r\n7\r" = .ok ⟨[.number (.integer 7)]⟩ := by rfl
  have after : parse "\n\x7d" = .error ⟨2, ⟨.expectedValue, some ⟨1, 1⟩⟩⟩ := by
    with_unfolding_all rfl
  exact ⟨before, after, (parse_compositional _ _).2.1 _ _ before after⟩

/-- Without the carriage return the list ends a column earlier. -/
example :
    parse "[\r" = .error ⟨1, ⟨.eofInList, some ⟨1, 2⟩⟩⟩ ∧
      parse "[\r\n1" = .error ⟨1, ⟨.eofInList, some ⟨1, 1⟩⟩⟩ := by
  constructor <;> with_unfolding_all rfl

end Script

end Runboard
