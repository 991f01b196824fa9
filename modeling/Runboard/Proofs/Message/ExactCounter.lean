import Runboard.Message.Reader
import Runboard.Proofs.Json.Ordered
import Runboard.Proofs.Json.Spelling
import Runboard.Proofs.Message.Roundtrip

set_option autoImplicit false

namespace Runboard

theorem Keyed.get?_append_cons_of_ne {α : Type} {key other : String} (apart : other ≠ key)
    (before : Keyed α) (value : α) (after : Keyed α) :
    get? key (before ++ (other, value) :: after) = get? key (before ++ after) := by
  induction before with
  | nil => simp only [List.nil_append, get?_cons, apart, ↓reduceIte]
  | cons entry before ih => simp only [List.cons_append, get?_cons, ih]

/-- The counter in the text of a value. -/
theorem Counter.ofText_text {v : Json} {counter : Counter} (ordered : v.Ordered)
    (fits : v.Fits Json.maxDepth) (counts : ofJson v = .ok counter) :
    ofText v.text = .ok counter := by
  have parsed := ordered.parse_text fits
  obtain ⟨rest, found, blank⟩ := Json.readAll_eq_ok_iff.mp parsed
  refine Json.readAll_eq_ok_iff.mpr ⟨rest, ?_, blank⟩
  simp only [read, found, counts, bind, Except.bind, pure, Except.pure]
  rfl

/-! Values that give the same counter. -/

section Same

variable {v w : Json} (same : Counter.ofJson v = Counter.ofJson w)
include same

theorem Slots.readMember_counter (kind : Kind) (slots : Slots) :
    readMember kind slots (Field.counter.key, v) =
      readMember kind slots (Field.counter.key, w) := by
  unfold readMember
  cases found : kind.field? Field.counter.key with
  | none => rfl
  | some field =>
      have counter : field = .counter :=
        Field.key_injective (Kind.field?_eq_some_iff.mp found).2
      subst counter
      simp only [read, same]

theorem Message.ofMembers_counter (kind : Kind) (before after : List (String × Json)) :
    ofMembers kind (before ++ (Field.counter.key, v) :: after) =
      ofMembers kind (before ++ (Field.counter.key, w) :: after) := by
  simp only [ofMembers, List.foldlM_append, List.foldlM_cons, Slots.readMember_counter same]

/-- The tag has to be known: a frame that is not recognized is shown as it is. -/
theorem Board.dispatch_counter (b : Board) (before after : List (String × Json)) {kind : Kind}
    (tagged : Keyed.get? Kind.tagKey (before ++ after) = some (.string kind.tag)) :
    b.dispatch (.object (before ++ (Field.counter.key, v) :: after)) =
      b.dispatch (.object (before ++ (Field.counter.key, w) :: after)) := by
  have apart : Field.counter.key ≠ Kind.tagKey := by decide
  have still (value : Json) :
      Keyed.get? Kind.tagKey (before ++ (Field.counter.key, value) :: after) =
        some (.string kind.tag) :=
    (Keyed.get?_append_cons_of_ne apart before value after).trans tagged
  rw [← kind.label_eq_tag] at still
  unfold dispatch
  rw [Message.ofFrame_of_tagged (still v), Message.ofFrame_of_tagged (still w),
    Message.ofMembers_counter same]

end Same

/-! Updates as texts. -/

namespace Message

def updateText (name spelled : String) : String :=
  "\x7b\"counter\":" ++ spelled ++ ",\"message_type\":\"progress-bar-update\",\"name\":" ++
    (Json.string name).text ++ "\x7d"

/-- The frame of an update, with any value for its counter. -/
def updateFrame (name : String) (counter : Json) : Json :=
  .object [(Field.counter.key, counter), (Kind.tagKey, .string Kind.update.tag),
    (Field.name.key, .string name)]

theorem text_updateFrame (name : String) (counter : Json) :
    (updateFrame name counter).text = updateText name counter.text := by
  calc (updateFrame name counter).text
    _ = String.ofList ('\x7b' :: (Json.stringChars Field.counter.key ++ [':'])) ++ counter.text ++
          String.ofList (',' :: (Json.stringChars Kind.tagKey ++
            ':' :: (Json.stringChars Kind.update.tag ++
              ',' :: (Json.stringChars Field.name.key ++ [':'])))) ++
          (Json.string name).text ++ String.ofList ['\x7d'] := by
        simp only [Json.text, ← String.ofList_append, List.append_assoc]
        rfl
    _ = updateText name counter.text := rfl

theorem ordered_updateFrame (name : String) {counter : Json} (ordered : counter.Ordered) :
    (updateFrame name counter).Ordered := by
  have first : Field.counter.key < Kind.tagKey := by decide
  have second : Kind.tagKey < Field.name.key := by decide
  refine .object ?_ ?_
  · apply List.Pairwise.cons
    · exact List.forall_mem_cons.mpr
        ⟨first, List.forall_mem_singleton.mpr (String.lt_trans first second)⟩
    · exact List.pairwise_pair.mpr second
  · simp [ordered, Json.Ordered.string]

theorem fits_updateFrame (name : String) {counter : Json} {depth : Nat}
    (fits : counter.Fits depth) : (updateFrame name counter).Fits (depth + 1) := by
  refine .object ?_
  simp [fits, Json.Fits.string]

theorem parse_updateText (name : String) {counter : Json} (ordered : counter.Ordered)
    (fits : counter.Fits (Json.maxDepth - 1)) :
    Json.parse (updateText name counter.text) = .ok (updateFrame name counter) := by
  rw [← text_updateFrame]
  exact (ordered_updateFrame name ordered).parse_text (fits_updateFrame name fits)

end Message

theorem Board.dispatch_updateFrame (b : Board) (name : String) {v : Json} {counter : Counter}
    (counts : Counter.ofJson v = .ok counter) :
    b.dispatch (Message.updateFrame name v) = b.accept (.update name counter) := by
  have same : Counter.ofJson v = Counter.ofJson (.string counter.text) := counts
  let after : List (String × Json) :=
    [(Kind.tagKey, .string Kind.update.tag), (Field.name.key, .string name)]
  have tagged : Keyed.get? Kind.tagKey after = some (.string Kind.update.tag) := rfl
  calc b.dispatch (Message.updateFrame name v)
    _ = b.dispatch (Message.updateFrame name (.string counter.text)) :=
        b.dispatch_counter same [] after tagged
    _ = b.accept (.update name counter) := rfl

/-- Every integer from -2⁶³ up to 2⁶⁴ keeps its decimal text as a counter, be it given as a number,
as a string or as a plain count. In the text of an update either spelling gives the message with
this counter, and in every other frame that has the tag of an update they are no less alike. -/
theorem Counter.integer_keeps_digits (n : Int) (low : -0x8000000000000000 ≤ n)
    (high : n < 0x10000000000000000) :
    let text := toString n
    Json.parse text = .ok (.number (.integer n)) ∧
      ofText text = .ok ⟨text⟩ ∧
      ofText (Json.string text).text = .ok ⟨text⟩ ∧
      (∀ count : Nat, n = count → ofNat count = ⟨text⟩) ∧
      (∀ name, ∃ numeric quoted,
        Json.parse (Message.updateText name text) = .ok numeric ∧
          Json.parse (Message.updateText name (Json.string text).text) = .ok quoted ∧
          ∀ b : Board, b.dispatch numeric = b.accept (.update name ⟨text⟩) ∧
            b.dispatch quoted = b.accept (.update name ⟨text⟩)) ∧
      ∀ (b : Board) (before after : List (String × Json)),
        Keyed.get? Kind.tagKey (before ++ after) = some (.string Kind.update.tag) →
          b.dispatch (.object (before ++ (Field.counter.key, .number (.integer n)) :: after)) =
            b.dispatch (.object (before ++ (Field.counter.key, .string text) :: after)) := by
  intro text
  have word : Json.IsWord n := ⟨low, Int.le_of_lt_add_one high⟩
  have spelled : Number.integerText n = text := Number.integerText_eq_toString n
  have written : (Json.number (.integer n)).text = text := by
    rw [← spelled]
    exact String.ofList_toList
  have numberOrdered : (Json.number (.integer n)).Ordered := .number _
  have stringOrdered : (Json.string text).Ordered := .string text
  have numberCounts : ofJson (.number (.integer n)) = .ok ⟨text⟩ := by
    rw [← spelled]
    rfl
  have stringCounts : ofJson (.string text) = .ok ⟨text⟩ := rfl
  refine ⟨?_, ?_, ?_, ?_, ?_, ?_⟩
  · rw [← written]
    exact numberOrdered.parse_text (.integer word)
  · have read := ofText_text numberOrdered (.integer word) numberCounts
    rwa [written] at read
  · exact ofText_text stringOrdered (.string text) stringCounts
  · intro count same
    rw [← spelled, same]
    rfl
  · intro name
    have numeric := Message.parse_updateText name numberOrdered (.integer word)
    rw [written] at numeric
    have quoted := Message.parse_updateText name stringOrdered (.string text)
    exact ⟨_, _, numeric, quoted, fun b =>
      ⟨b.dispatch_updateFrame name numberCounts, b.dispatch_updateFrame name stringCounts⟩⟩
  · intro b before after tagged
    exact b.dispatch_counter (numberCounts.trans stringCounts.symm) before after tagged

/-- The largest word, the smallest one, and an integer between two floats. -/
theorem Counter.integer_keeps_digits_at_edges :
    ofText "18446744073709551615" = .ok ⟨"18446744073709551615"⟩ ∧
      ofText "-9223372036854775808" = .ok ⟨"-9223372036854775808"⟩ ∧
      ofText "9007199254740993" = .ok ⟨"9007199254740993"⟩ ∧
      ofText "\"9007199254740993\"" = .ok ⟨"9007199254740993"⟩ ∧
      ofNat 9007199254740993 = ⟨"9007199254740993"⟩ ∧
      ∀ b : Board,
        b.dispatch (.object [("message_type", .string "progress-bar-update"),
          ("counter", .number (.integer 9007199254740993)), ("name", .string "paper")]) =
        b.dispatch (.object [("message_type", .string "progress-bar-update"),
          ("counter", .string "9007199254740993"), ("name", .string "paper")]) := by
  have largest := integer_keeps_digits 18446744073709551615 (by decide) (by decide)
  have smallest := integer_keeps_digits (-9223372036854775808) (by decide) (by decide)
  obtain ⟨_, number, string, count, _, alike⟩ :=
    integer_keeps_digits 9007199254740993 (by decide) (by decide)
  refine ⟨largest.2.1, smallest.2.1, number, string, count _ rfl, ?_⟩
  intro b
  exact alike b [("message_type", .string "progress-bar-update")] [("name", .string "paper")] rfl

end Runboard
