import Runboard.Proofs.Board.Applied
import Runboard.Proofs.Message.Diagnosis
import Runboard.Proofs.Text.Printed
import Runboard.Session

set_option autoImplicit false

namespace Runboard

open Text (Printed)

/-! What is said about malformed frames. -/

namespace Message

/-- The faults of the members of a frame. Of its texts only those between quotes are repeated. -/
inductive Complaint : Json.Mismatch → Prop
  | mistyped (found : Json) (expected : Json.Expected) : Complaint (.invalidType found expected)
  | missing (field : Field) : Complaint (.missingField field.key)
  | repeated (field : Field) : Complaint (.duplicateField field.key)
  | uncounted : Complaint .noCounter

end Message

open Message (Complaint)

theorem Field.complaint_of_fault {field : Field} {v : Json} {e : Json.Mismatch}
    (wrong : field.fault? v = some e) : Complaint e := by
  cases field with
  | problems =>
      cases v with
      | array items =>
          obtain ⟨item, _, rfl⟩ := Option.map_eq_some_iff.mp wrong
          exact .mistyped item .string
      | _ =>
          cases wrong
          exact .mistyped _ _
  | counter => cases v <;> cases wrong <;> exact .uncounted
  | _ => cases v <;> cases wrong <;> exact .mistyped _ _

namespace Slots

theorem complaint_of_read {slots : Slots} {field : Field} {v : Json} {e : Json.Mismatch}
    (failed : slots.read field v = .error e) : Complaint e := by
  cases wrong : field.fault? v with
  | some reason =>
      rw [read_of_fault slots wrong] at failed
      cases failed
      exact Field.complaint_of_fault wrong
  | none =>
      obtain ⟨after, success, _⟩ := slots.read_of_admits (Field.fault?_eq_none_iff.mp wrong)
      rw [success] at failed
      cases failed

theorem complaint_of_readMember {kind : Kind} {slots : Slots} {member : String × Json}
    {e : Json.Mismatch} (failed : readMember kind slots member = .error e) : Complaint e := by
  unfold readMember at failed
  split at failed
  · cases failed
  · split at failed
    · cases failed
      exact .repeated _
    · exact complaint_of_read failed

theorem complaint_of_foldlM {kind : Kind} {members : List (String × Json)} {slots : Slots}
    {e : Json.Mismatch} (failed : members.foldlM (readMember kind) slots = .error e) :
    Complaint e := by
  induction members generalizing slots with
  | nil => cases failed
  | cons member rest ih =>
      cases first : readMember kind slots member with
      | ok next =>
          rw [foldlM_cons_of_ok rest first] at failed
          exact ih failed
      | error reason =>
          rw [foldlM_cons_of_error rest first] at failed
          cases failed
          exact complaint_of_readMember first

theorem complaint_of_toMessage {slots : Slots} {kind : Kind} {e : Json.Mismatch}
    (failed : slots.toMessage kind = .error e) : Complaint e := by
  cases missing : kind.fields.find? fun field => !slots.has field with
  | some field =>
      rw [toMessage_of_missing missing] at failed
      cases failed
      exact .missing field
  | none =>
      have complete : ∀ field ∈ kind.fields, slots.has field = true := by
        intro field own
        simpa using List.find?_eq_none.mp missing field own
      obtain ⟨m, success⟩ := exists_toMessage complete
      rw [success] at failed
      cases failed

end Slots

namespace Message

theorem complaint_of_ofMembers {kind : Kind} {members : List (String × Json)} {e : Json.Mismatch}
    (failed : ofMembers kind members = .error e) : Complaint e := by
  unfold ofMembers at failed
  cases read : members.foldlM (Slots.readMember kind) {} with
  | ok slots =>
      rw [read] at failed
      exact Slots.complaint_of_toMessage failed
  | error reason =>
      rw [read] at failed
      cases failed
      exact Slots.complaint_of_foldlM read

theorem printed_key (field : Field) : Printed field.key := by
  cases field <;> exact Text.printed_of_all (by decide)

theorem printed_label (kind : Kind) : Printed kind.label := by
  cases kind <;> exact Text.printed_of_all (by decide)

theorem Complaint.printed {e : Json.Mismatch} (complaint : Complaint e) : Printed e.message := by
  have tick : Printed "`" := Text.printed_of_all (by decide)
  cases complaint with
  | mistyped found expected =>
      have opening : Printed "invalid type: " := Text.printed_of_all (by decide)
      have middle : Printed ", expected " := Text.printed_of_all (by decide)
      have wanted : Printed expected.text := by
        cases expected <;> exact Text.printed_of_all (by decide)
      exact ((opening.append found.printed_describe).append middle).append wanted
  | missing field =>
      have opening : Printed "missing field `" := Text.printed_of_all (by decide)
      exact (opening.append (printed_key field)).append tick
  | repeated field =>
      have opening : Printed "duplicate field `" := Text.printed_of_all (by decide)
      exact (opening.append (printed_key field)).append tick
  | uncounted => exact Text.printed_of_all (by decide)

theorem complaint_of_malformed {frame : Json} {label : String} {reason : Json.Mismatch}
    (failed : ofFrame frame = .error (.malformed label reason)) :
    Complaint reason ∧ ∃ kind : Kind, label = kind.label := by
  obtain ⟨members, kind, rfl, rfl, tagged, _⟩ := ofFrame_eq_malformed_iff.mp ⟨reason, failed⟩
  rw [ofFrame_of_tagged tagged] at failed
  cases read : ofMembers kind members with
  | ok m =>
      rw [read] at failed
      cases failed
  | error e =>
      rw [read] at failed
      cases failed
      exact ⟨complaint_of_ofMembers read, kind, rfl⟩

/-- Whatever a frame holds, what is wrong with it is said on one line. -/
theorem printed_of_error {frame : Json} {e : DecodeError} (failed : ofFrame frame = .error e) :
    Printed e.message := by
  cases e with
  | notAnObject shown =>
      have opening : Printed "frame is not a JSON object: " := Text.printed_of_all (by decide)
      exact opening.append shown.printed_text
  | unknownKind tag shown =>
      have opening : Printed "unknown message type " := Text.printed_of_all (by decide)
      have middle : Printed " in frame " := Text.printed_of_all (by decide)
      cases tag with
      | none =>
          have none : Printed "None" := Text.printed_of_all (by decide)
          exact ((opening.append none).append middle).append shown.printed_text
      | some tag =>
          have bracket : Printed "Some(" := Text.printed_of_all (by decide)
          have close : Printed ")" := Text.printed_of_all (by decide)
          have quoted := (bracket.append (Text.printed_quoted tag)).append close
          exact ((opening.append quoted).append middle).append shown.printed_text
  | malformed label reason =>
      have opening : Printed "malformed " := Text.printed_of_all (by decide)
      have middle : Printed " message: " := Text.printed_of_all (by decide)
      obtain ⟨complaint, kind, rfl⟩ := complaint_of_malformed failed
      exact ((opening.append (printed_label kind)).append middle).append complaint.printed

end Message

/-! What is logged. -/

namespace Board

variable {b : Board} {frame : Json}

theorem printed_applyLog (b : Board) (m : Message) : ∀ e ∈ b.applyLog m, Printed e.text := by
  have dispatching : Printed ("Dispatching " ++ m.label) :=
    Text.Printed.append (Text.printed_of_all (by decide)) (Message.printed_label m.kind)
  unfold applyLog
  refine List.forall_mem_cons.mpr ⟨dispatching, ?_⟩
  split
  · rename_i name
    split
    · have opening : Printed "Progress entry " := Text.printed_of_all (by decide)
      have close : Printed " added twice, replacing it" := Text.printed_of_all (by decide)
      exact List.forall_mem_singleton.mpr ((opening.append (Text.printed_quoted name)).append close)
    · exact List.forall_mem_nil _
  · rename_i items isFinal
    have opening : Printed "Problem report with " := Text.printed_of_all (by decide)
    have middle : Printed " entries (final: " := Text.printed_of_all (by decide)
    have close : Printed ")" := Text.printed_of_all (by decide)
    have final : Printed (if isFinal then "true" else "false") := by
      split <;> exact Text.printed_of_all (by decide)
    have counted := (opening.append (Text.printed_toString items.length)).append middle
    exact List.forall_mem_singleton.mpr ((counted.append final).append close)
  · exact List.forall_mem_nil _

theorem printed_message (e : UnknownRow) : Printed e.message := by
  have middle : Printed " for unknown progress entry " := Text.printed_of_all (by decide)
  exact ((Message.printed_label e.kind).append middle).append (Text.printed_quoted e.name)

theorem printed_failureEntry {reason : String} (printed : Printed reason) :
    Printed (failureEntry reason).text := by
  have opening : Printed "Failed to handle message: " := Text.printed_of_all (by decide)
  exact opening.append printed

theorem printed_log_dispatch (b : Board) (frame : Json) :
    ∀ e ∈ (b.dispatch frame).log, Printed e.text := by
  have dispatched := dispatched_dispatch b frame
  generalize b.dispatch frame = step at dispatched
  cases dispatched with
  | applied decoded applied => exact printed_applyLog b _
  | refused decoded refused =>
      refine List.forall_mem_append.mpr ⟨printed_applyLog b _, List.forall_mem_singleton.mpr ?_⟩
      exact printed_failureEntry (printed_message _)
  | malformed decoded =>
      refine List.forall_mem_singleton.mpr ?_
      exact printed_failureEntry (Message.printed_of_error decoded)
  | unrecognized decoded shown =>
      have opening : Printed "Unrecognized message: " := Text.printed_of_all (by decide)
      exact List.forall_mem_singleton.mpr (opening.append (Message.printed_of_error decoded))

/-- No frame goes by without an entry. -/
theorem log_dispatch_ne_nil (b : Board) (frame : Json) : (b.dispatch frame).log ≠ [] := by
  have dispatched := dispatched_dispatch b frame
  generalize b.dispatch frame = step at dispatched
  cases dispatched <;> exact List.cons_ne_nil _ _

theorem printed_alerts_dispatch (b : Board) (frame : Json) :
    ∀ alert ∈ (b.dispatch frame).alerts, Printed alert := by
  have dispatched := dispatched_dispatch b frame
  generalize b.dispatch frame = step at dispatched
  cases dispatched with
  | @unrecognized e text decoded shown =>
      have opening : Printed "Invalid message: " := Text.printed_of_all (by decide)
      have printed : Printed text := by
        cases e <;> cases shown <;> exact Json.printed_text _
      exact List.forall_mem_singleton.mpr (opening.append printed)
  | _ => exact List.forall_mem_nil _

end Board

namespace Log.Entry

theorem printed_line {e : Entry} (printed : Printed e.text) : Printed e.line := by
  have level : Printed e.level.name := by
    cases e.level <;> exact Text.printed_of_all (by decide)
  have blank : Printed " " := Text.printed_of_all (by decide)
  exact (level.append blank).append printed

theorem printed_fileLine {e : Entry} (printed : Printed e.text) : Printed e.fileLine := by
  have opening : Printed "[" := Text.printed_of_all (by decide)
  have level : Printed e.level.name := by
    cases e.level <;> exact Text.printed_of_all (by decide)
  have close : Printed "] " := Text.printed_of_all (by decide)
  have place : Printed e.source.path := by
    cases e.source <;> exact Text.printed_of_all (by decide)
  have colon : Printed ": " := Text.printed_of_all (by decide)
  exact ((((opening.append level).append close).append place).append colon).append printed

end Log.Entry

theorem Monitor.printed_alertLog {alerts : List String}
    (printed : ∀ alert ∈ alerts, Printed alert) : ∀ e ∈ alertLog alerts, Printed e.text := by
  have opening : Printed "Alerting operator: " := Text.printed_of_all (by decide)
  intro e member
  obtain ⟨alert, raised, rfl⟩ := List.mem_map.mp member
  exact opening.append (printed alert raised)

/-- Whatever board a frame finds and whatever the frame holds, something is logged about it, and no
text of the log and no alert has a character below U+0020. When a monitor shows the frame, this is
also true of the entries for the alerts. So each entry is a single line, on display and in the log
file. -/
theorem frame_cannot_forge_lines (b : Board) (frame : Json) :
    (b.dispatch frame).log ≠ [] ∧
      (∀ e ∈ (b.dispatch frame).log, Printed e.text ∧ Printed e.line ∧ Printed e.fileLine) ∧
      (∀ alert ∈ (b.dispatch frame).alerts, Printed alert) ∧
      ∀ m : Monitor, ∀ e ∈ (m.showFrame frame).log,
        Printed e.text ∧ Printed e.line ∧ Printed e.fileLine := by
  have whole {entries : List Log.Entry} (texts : ∀ e ∈ entries, Printed e.text) :
      ∀ e ∈ entries, Printed e.text ∧ Printed e.line ∧ Printed e.fileLine := by
    intro e member
    have printed := texts e member
    exact ⟨printed, e.printed_line printed, e.printed_fileLine printed⟩
  refine ⟨b.log_dispatch_ne_nil frame, whole (b.printed_log_dispatch frame),
    b.printed_alerts_dispatch frame, ?_⟩
  intro m
  have raised := m.board.printed_alerts_dispatch frame
  exact whole (List.forall_mem_append.mpr
    ⟨m.board.printed_log_dispatch frame, Monitor.printed_alertLog raised⟩)

/-- A tag and a key with line feeds in them, and a name with one that is added twice. -/
theorem frame_cannot_forge_lines_feeds :
    let stray := Json.object
      [("a\n[ERROR] b", .null), (Kind.tagKey, .string "progress\n[ERROR] forged")]
    let add := (Message.add "paper\n[ERROR] forged").toFrame
    let b := ((Board.empty {}).dispatch add).board
    (∃ e ∈ (b.dispatch stray).log, e.level = .error ∧ Printed e.text) ∧
      (∃ e ∈ (b.dispatch add).log, e.level = .warn ∧ Printed e.fileLine) ∧
      ∃ e ∈ (({} : Monitor).showFrame stray).log, e.source = .alerts ∧ Printed e.fileLine := by
  intro stray add b
  obtain ⟨_, strayLog, _, shown⟩ := frame_cannot_forge_lines b stray
  have addLog := (frame_cannot_forge_lines b add).2.1
  refine ⟨?_, ?_, ?_⟩
  · exact ⟨_, List.mem_singleton_self _, rfl, (strayLog _ (List.mem_singleton_self _)).1⟩
  · exact ⟨_, List.mem_cons_of_mem _ List.mem_cons_self, rfl,
      (addLog _ (List.mem_cons_of_mem _ List.mem_cons_self)).2.2⟩
  · exact ⟨_, List.mem_cons_of_mem _ List.mem_cons_self, rfl,
      (shown {} _ (List.mem_cons_of_mem _ List.mem_cons_self)).2.2⟩

end Runboard
