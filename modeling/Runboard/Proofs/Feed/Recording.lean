import Runboard.Proofs.Feed.Script
import Runboard.Proofs.Json.Roundtrip
import Runboard.Proofs.Message.Roundtrip

set_option autoImplicit false

namespace Runboard

namespace Message

/-- The two ways of writing a message: as it is declared, with its tag first, or as the frame that
a channel carries, with its keys in order. -/
inductive Layout
  | declared
  | ordered
deriving DecidableEq, Repr

def layOut (m : Message) : Layout → String
  | .declared => m.text
  | .ordered => m.toFrame.text

inductive IsValue : Json → Prop
  | text (s : String) : IsValue (.string s)
  | truth (b : Bool) : IsValue (.bool b)
  | texts (items : List String) : IsValue (.array (items.map .string))

theorem isValue_of_mem_members {m : Message} {member : String × Json}
    (listed : member ∈ m.members) : IsValue member.2 := by
  cases m <;> simp only [members, List.mem_cons, List.not_mem_nil, or_false] at listed <;>
    rcases listed with rfl | rfl | rfl <;> constructor

theorem IsValue.fits {v : Json} (isValue : IsValue v) (depth : Nat) : Json.Fits (depth + 1) v := by
  cases isValue with
  | text s => exact .string s
  | truth b => exact .bool b
  | texts items =>
      refine .array fun item listed => ?_
      obtain ⟨s, _, rfl⟩ := List.mem_map.mp listed
      exact .string s

theorem IsValue.canonical_eq {v : Json} (isValue : IsValue v) : v.canonical = v := by
  cases isValue with
  | text s => rfl
  | truth b => rfl
  | texts items =>
      rw [Json.canonical, Json.canonicalItems_eq_map, List.map_map]
      rfl

/-- Reading an object of such values does no more than put its keys in order. -/
theorem parseChars_of_values {members : List (String × Json)}
    (values : ∀ member ∈ members, IsValue member.2) :
    Json.Fits Json.maxDepth (.object members) ∧
      Json.parseChars (Json.object members).chars = .ok (.object (Keyed.ofPairs members)) := by
  have fits : Json.Fits Json.maxDepth (.object members) :=
    .object fun member listed => (values member listed).fits 125
  have same : Json.canonicalMembers members = members := by
    rw [Json.canonicalMembers_eq_map]
    refine (List.map_congr_left fun member listed => ?_).trans members.map_id
    rw [(values member listed).canonical_eq]
    rfl
  have parsed := fits.parseChars_chars
  rw [Json.canonical, same] at parsed
  exact ⟨fits, parsed⟩

/-- What a script needs to know of the text of a message. -/
structure Readable (m : Message) (text : List Char) : Prop where
  printed : ∀ c ∈ text, 0x20 ≤ c.toNat
  opens : text.head? = some '\x7b'
  parsed : Json.parseChars text = .ok m.toFrame

theorem readable_layOut (m : Message) (layout : Layout) : m.Readable (m.layOut layout).toList := by
  cases layout with
  | declared =>
      obtain ⟨fits, parsed⟩ := parseChars_of_values fun _ => isValue_of_mem_members (m := m)
      have text : (m.layOut .declared).toList = (Json.object m.members).chars :=
        String.toList_ofList
      rw [text]
      exact ⟨fits.printed, rfl, parsed⟩
  | ordered =>
      have values (member : String × Json) (listed : member ∈ m.written) : IsValue member.2 :=
        isValue_of_mem_members (Keyed.mem_of_mem_ofPairs listed)
      obtain ⟨fits, parsed⟩ := parseChars_of_values values
      have text : (m.layOut .ordered).toList = (Json.object m.written).chars :=
        String.toList_ofList
      rw [m.sorted_written.ofPairs_eq] at parsed
      rw [text]
      exact ⟨fits.printed, rfl, parsed⟩

namespace Readable

variable {m : Message} {text : List Char}

theorem not_mem_of_control (readable : m.Readable text) {c : Char} (control : c.toNat < 0x20) :
    c ∉ text :=
  fun member => Nat.not_lt.mpr (readable.printed c member) control

theorem readLine (readable : m.Readable text) : Script.readLine text = .ok (some m.toFrame) := by
  refine Script.readLine_of_parse ?_ readable.parsed
  have opens := readable.opens
  cases text with
  | nil => cases opens
  | cons c rest =>
      cases opens
      rfl

end Readable

end Message

/-- A line of a recording: a message, or nothing but blanks. -/
inductive Recording.Line
  | message (m : Message) (layout : Message.Layout)
  | blank (text : List Char) (blank : text.all Text.isBlank = true) (oneLine : '\n' ∉ text)

inductive Recording.Ending
  | feed
  | returnFeed
deriving DecidableEq, Repr

/-- Lines with their ends, and a last one that may do without. -/
structure Recording where
  lines : List (Recording.Line × Recording.Ending)
  last : Option Recording.Line := none

namespace Recording

/-- The carriage return in front of the line feed, if there is one. -/
def Ending.carriage : Ending → List Char
  | .feed => []
  | .returnFeed => ['\r']

namespace Line

def chars : Line → List Char
  | .message m layout => (m.layOut layout).toList
  | .blank text _ _ => text

def message? : Line → Option Message
  | .message m _ => some m
  | .blank .. => none

theorem oneLine (line : Line) : '\n' ∉ line.chars := by
  cases line with
  | message m layout => exact (m.readable_layOut layout).not_mem_of_control (by decide)
  | blank text blank oneLine => exact oneLine

theorem readLine (line : Line) :
    Script.readLine line.chars = .ok (line.message?.map Message.toFrame) := by
  cases line with
  | message m layout => exact (m.readable_layOut layout).readLine
  | blank text blank oneLine => exact Script.readLine_of_blank blank

/-- The end of a line is no part of what is read. -/
theorem readLine_dropReturn (line : Line) (ending : Ending) :
    Script.readLine (Text.dropReturn (line.chars ++ ending.carriage)) =
      .ok (line.message?.map Message.toFrame) := by
  cases ending with
  | returnFeed =>
      rw [Ending.carriage, Text.dropReturn_concat]
      exact line.readLine
  | feed =>
      rw [Ending.carriage, List.append_nil]
      cases line with
      | message m layout =>
          have readable := m.readable_layOut layout
          rw [chars, Text.dropReturn_of_not_mem (readable.not_mem_of_control (by decide))]
          exact readable.readLine
      | blank text blank oneLine =>
          -- A blank line may itself end in a carriage return, which then goes as well.
          refine Script.readLine_of_blank (List.all_eq_true.mpr fun c member => ?_)
          exact List.all_eq_true.mp blank c ((Text.dropReturn_sublist text).mem member)

end Line

/-- The characters of lines, and of what stands behind them. -/
def charsOf : List (Line × Ending) → List Char → List Char
  | [], rest => rest
  | (line, ending) :: lines, rest =>
    line.chars ++ ending.carriage ++ '\n' :: charsOf lines rest

def text (r : Recording) : String :=
  String.ofList (charsOf r.lines ((r.last.map Line.chars).getD []))

def messages (r : Recording) : List Message :=
  (r.lines.map Prod.fst ++ r.last.toList).filterMap Line.message?

theorem readLines_last (last : Option Line) (number : Nat) :
    Script.readLines number (Text.lines ((last.map Line.chars).getD [])) =
      .ok ((last.toList.filterMap Line.message?).map Message.toFrame) := by
  cases last with
  | none => rfl
  | some line =>
      have read := line.readLine
      rw [Option.map_some, Option.getD_some, Text.lines_of_not_mem line.oneLine]
      split
      · rename_i empty
        -- Only a blank line is empty.
        rw [empty] at read
        cases line with
        | message m layout => cases read
        | blank => rfl
      · rw [Script.readLines_cons read rfl]
        cases line <;> rfl

theorem readLines_text (r : Recording) (number : Nat) :
    Script.readLines number (Text.lines r.text.toList) =
      .ok (r.messages.map Message.toFrame) := by
  obtain ⟨lines, last⟩ := r
  rw [text, String.toList_ofList]
  induction lines generalizing number with
  | nil => exact readLines_last last number
  | cons first lines ih =>
      obtain ⟨line, ending⟩ := first
      have oneLine : '\n' ∉ line.chars ++ ending.carriage := by
        refine List.not_mem_append line.oneLine ?_
        cases ending <;> decide
      rw [charsOf, Text.lines_append_feed oneLine,
        Script.readLines_cons (line.readLine_dropReturn ending) (ih (number + 1))]
      cases line <;> rfl

/-- A recording is read without fault, and gives the frames of its messages in their order. On any
board these frames do what the messages do, and raise no alert. -/
theorem replay_faithful (r : Recording) :
    ∃ script, Script.parse r.text = .ok script ∧
      script.frames = r.messages.map Message.toFrame ∧
      ∀ b : Board, (b.dispatchAll script.frames).board = b.acceptAll r.messages ∧
        (b.dispatchAll script.frames).alerts = [] := by
  refine ⟨⟨r.messages.map Message.toFrame⟩, ?_, rfl, fun b => b.dispatchAll_toFrame r.messages⟩
  simp only [Script.parse, readLines_text, bind, Except.bind, pure, Except.pure]

/-- A name with a line feed and a line separator in it, after a line of other blanks. -/
example :
    Script.parse (" \u0085\r\n\x7b\"message_type\":\"progress-bar-add\"," ++
        "\"name\":\"a\\n\u2028\"\x7d") =
      .ok ⟨[(Message.add "a\n\u2028").toFrame]⟩ := by
  rfl

end Recording

end Runboard
