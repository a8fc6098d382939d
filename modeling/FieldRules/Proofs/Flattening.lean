import FieldRules.Proofs.Members
import FieldRules.Proofs.Reports

/-! The list of failures of a report. It has one record for each message and keeps
their order, so the messages can be built from it again. The records of a field carry
the text of its value just if its rules failed; a check of the whole input leaves
messages but no values. -/
namespace FieldRules

namespace Messages

variable {messages : Messages}

theorem filter_entries (distinct : (Ordered.keys messages).Nodup) (field : String) :
    messages.entries.filter (·.field = field) = fieldEntries field (messages.ofField field) := by
  induction messages with
  | nil => rfl
  | cons entry rest ih =>
    obtain ⟨head, rules⟩ := entry
    obtain ⟨fresh, distinct⟩ := List.nodup_cons.mp distinct
    rw [entries, List.flatMap_cons, ← entries, List.filter_append, ih distinct]
    by_cases here : head = field
    · subst here
      have others : ofField rest head = [] := by
        rw [ofField, (Ordered.get?_eq_none_iff head rest).mpr fresh, Option.getD_none]
      have all : (fieldEntries head rules).filter (·.field = head) = fieldEntries head rules := by
        rw [List.filter_eq_self]
        intro note member
        obtain ⟨_, _, rfl⟩ := List.mem_map.mp member
        simp
      rw [all, others]
      simp [ofField, Ordered.get?, fieldEntries]
    · have none : (fieldEntries head rules).filter (·.field = field) = [] := by
        rw [List.filter_eq_nil_iff]
        intro note member
        obtain ⟨_, _, rfl⟩ := List.mem_map.mp member
        simpa using here
      rw [none, List.nil_append]
      simp [ofField, Ordered.get?, here]

theorem WellFormed.mem_entries (wellFormed : messages.WellFormed) (note : Note) :
    note ∈ messages.entries ↔
      Ordered.getInner? note.field note.rule messages = some note.text := by
  obtain ⟨field, rule, text⟩ := note
  rw [Ordered.getInner?, Option.bind_eq_some_iff]
  constructor
  · intro member
    obtain ⟨⟨_, rules⟩, here, written⟩ := List.mem_flatMap.mp member
    obtain ⟨⟨_, _⟩, there, same⟩ := List.mem_map.mp written
    obtain ⟨rfl, rfl, rfl⟩ := Note.mk.injEq .. ▸ same
    exact ⟨rules, Ordered.get?_of_mem wellFormed.distinct here,
      Ordered.get?_of_mem (wellFormed.rules _ here) there⟩
  · rintro ⟨rules, here, there⟩
    exact List.mem_flatMap.mpr ⟨(field, rules), Ordered.mem_of_get? here,
      List.mem_map.mpr ⟨(rule, text), Ordered.mem_of_get? there, rfl⟩⟩

theorem WellFormed.nodup_entries (wellFormed : messages.WellFormed) :
    (messages.entries.map Note.pair).Nodup := by
  obtain ⟨distinct, _, rules⟩ := wellFormed
  rw [List.Nodup, List.pairwise_map, entries, List.pairwise_flatMap]
  constructor
  · rintro ⟨field, written⟩ member
    have once := rules _ member
    rw [Ordered.keys, List.Nodup, List.pairwise_map] at once
    simp only [fieldEntries, List.pairwise_map]
    exact once.imp fun different same => different (Prod.mk.inj same).2
  · rw [Ordered.keys, List.Nodup, List.pairwise_map] at distinct
    refine distinct.imp ?_
    intro one other different note noted later noted' same
    obtain ⟨_, _, rfl⟩ := List.mem_map.mp noted
    obtain ⟨_, _, rfl⟩ := List.mem_map.mp noted'
    exact different (Prod.mk.inj same).1

end Messages

def Failure.note (failure : Failure) : Note := ⟨failure.field, failure.rule, failure.message⟩

namespace Report

variable (report : Report)

theorem map_note_failures : report.failures.map Failure.note = report.messages.entries := by
  simp only [failures, Messages.entries, Messages.fieldEntries, List.map_flatMap, List.map_map]
  rfl

theorem value_of_mem_failures {report : Report} {failure : Failure}
    (member : failure ∈ report.failures) :
    failure.value = (report.failedValue? failure.field).bind Json.recordText? := by
  obtain ⟨entry, _, written⟩ := List.mem_flatMap.mp member
  obtain ⟨_, _, rfl⟩ := List.mem_map.mp written
  rfl

/-- The records of one field are its messages in order. -/
theorem ofField_failures {report : Report} (wellFormed : report.messages.WellFormed)
    (field : String) :
    (Failure.ofField report.failures field).map (fun failure => (failure.rule, failure.message)) =
      report.messages.ofField field := by
  have chosen := Messages.filter_entries wellFormed.distinct field
  rw [← map_note_failures, List.filter_map] at chosen
  have pairs := congrArg (List.map fun note : Note => (note.rule, note.text)) chosen
  rw [List.map_map, Messages.fieldEntries, List.map_map] at pairs
  exact pairs.trans (List.map_id _)

end Report

namespace Failure

/-- A record in JSON has the four parts of the record as its members. -/
theorem member?_json (failure : Failure) :
    ∃ members, failure.json = .object members ∧
      Json.member? members "field" = some (.string failure.field) ∧
      Json.member? members "message" = some (.string failure.message) ∧
      Json.member? members "constraint" = some (.string failure.rule) ∧
      Json.member? members "value" = some (match failure.value with
        | some text => .string text
        | none => .null) := by
  refine ⟨_, rfl, ?_⟩
  simp only [Json.member?_sortMembers]
  exact ⟨rfl, rfl, rfl, rfl⟩

end Failure

namespace Run

variable {registry : Registry} {policy : Policy} {source : Source} {absent : Json} {report : Report}

theorem failedValue?_of_failed (ran : validate registry policy source absent = .ok report)
    (failed : SomeFails registry policy source absent) (field : String) :
    report.failedValue? field =
      if field ∈ Ordered.keys report.messages then some ((source field).getD absent) else none := by
  rcases report_cases ran with ⟨_, rfl⟩ | ⟨passed, _⟩
  · exact get?_plannedValues _ field
  · contradiction

theorem values_of_passed (ran : validate registry policy source absent = .ok report)
    (passed : ¬ SomeFails registry policy source absent) : report.values = [] := by
  rcases report_cases ran with ⟨failed, _⟩ | ⟨_, rfl⟩
  · contradiction
  · rfl

/-- The failures of any report that a run gives. There is one record for each message,
the records put one after the other build the messages again with all their places, and
the records of a field are its messages. The body of an answer has the same records in
the same order. A field has a value just if it has messages that its rules left; the
value is the planned one, and the text of a single value stands in all records of its
field. A check of the whole input leaves no values. -/
theorem failures_lossless (registry : Registry) (policy : Policy) (source : Source)
    (absent : Json) (report : Report)
    (ran : validate registry policy source absent = .ok report) :
    ((report.failures.map fun failure => (failure.field, failure.rule)).Nodup ∧
      ∀ field rule text, report.message? field rule = some text ↔
        ∃ failure ∈ report.failures,
          failure.field = field ∧ failure.rule = rule ∧ failure.message = text) ∧
    Messages.ofNotes (report.failures.map Failure.note) = report.messages ∧
    (∀ field, (Failure.ofField report.failures field).map
        (fun failure => (failure.rule, failure.message)) = report.messages.ofField field) ∧
    (∃ body, report.errorBody = .object body ∧
      Json.member? body "errors" = some (.array (report.failures.map Failure.json)) ∧
      ∀ failure ∈ report.failures, ∃ members, failure.json = .object members ∧
        Json.member? members "field" = some (.string failure.field) ∧
        Json.member? members "message" = some (.string failure.message) ∧
        Json.member? members "constraint" = some (.string failure.rule) ∧
        Json.member? members "value" = some (match failure.value with
          | some text => .string text
          | none => .null)) ∧
    (∀ field, (report.failedValue? field).isSome = true ↔
      field ∈ Ordered.keys report.messages ∧ SomeFails registry policy source absent) ∧
    (∀ field value, report.failedValue? field = some value →
      value = (source field).getD absent) ∧
    (SomeFails registry policy source absent → ∀ failure ∈ report.failures,
      failure.value = match (source failure.field).getD absent with
        | .string text => some text
        | .integer n => some (toString n)
        | .float x => some x.text
        | .bool truth => some (if truth then "true" else "false")
        | .null | .array _ | .object _ => none) ∧
    (¬ SomeFails registry policy source absent →
      report.values = [] ∧ ∀ failure ∈ report.failures, failure.value = none) := by
  obtain ⟨noted, messages⟩ := exists_notes_of_report ran
  have wellFormed : report.messages.WellFormed := by
    rw [messages]
    exact Messages.wellFormed_ofNotes noted
  have valueless (passed : ¬ SomeFails registry policy source absent) (field : String) :
      report.failedValue? field = none := by
    rw [Report.failedValue?, values_of_passed ran passed]
    rfl
  refine ⟨⟨?_, ?_⟩, ?_, Report.ofField_failures wellFormed, ⟨_, rfl, ?_, ?_⟩, ?_, ?_, ?_, ?_⟩
  · have once := wellFormed.nodup_entries
    rw [← Report.map_note_failures, List.map_map] at once
    exact once
  · intro field rule text
    have entry := wellFormed.mem_entries ⟨field, rule, text⟩
    rw [← Report.map_note_failures, List.mem_map] at entry
    rw [Report.message?, ← entry]
    simp [Failure.note]
  · rw [Report.map_note_failures]
    exact wellFormed.ofNotes_entries
  · rw [Json.member?_sortMembers]
    rfl
  · intro failure _
    exact failure.member?_json
  · intro field
    by_cases failed : SomeFails registry policy source absent
    · rw [failedValue?_of_failed ran failed]
      by_cases present : field ∈ Ordered.keys report.messages <;> simp [present, failed]
    · simp [valueless failed, failed]
  · intro field value found
    by_cases failed : SomeFails registry policy source absent
    · rw [failedValue?_of_failed ran failed] at found
      split at found
      · exact (Option.some.inj found).symm
      · contradiction
    · rw [valueless failed] at found
      contradiction
  · intro failed failure member
    have present : failure.field ∈ Ordered.keys report.messages := by
      obtain ⟨entry, here, written⟩ := List.mem_flatMap.mp member
      obtain ⟨_, _, rfl⟩ := List.mem_map.mp written
      exact List.mem_map_of_mem here
    rw [Report.value_of_mem_failures member, failedValue?_of_failed ran failed, if_pos present,
      Option.bind_some]
    cases (source failure.field).getD absent <;> rfl
  · intro passed
    refine ⟨values_of_passed ran passed, ?_⟩
    intro failure member
    rw [Report.value_of_mem_failures member, valueless passed]
    rfl

def sizes : Policy :=
  (Definition.ofSchema
    (Schema.ofDeclarations [("tags", "max:1"), ("age", "min:18|in:18,19")])).policy

theorem failures_lossless_sizes :
    ∃ report, validate Registry.empty sizes (Source.ofJson (.object
        [("age", .integer 7), ("tags", .array [.null, .null])])) .null = .ok report ∧
      (Failure.ofField report.failures "age").map (fun failure =>
          (failure.rule, failure.message)) =
        [("min", "age must be at least 18"), ("in", "age must be one of: 18, 19")] ∧
      report.failedValue? "age" = some (.integer 7) := by
  obtain ⟨report, ran⟩ := (validate_ok_iff (Source.ofJson (.object
    [("age", .integer 7), ("tags", .array [.null, .null])])) .null).mpr
      (show Registry.empty.ResolvesAll sizes.schema by decide +kernel)
  have messages : report.messages =
      [("tags", [("max", "tags must be at most 1")]),
        ("age", [("min", "age must be at least 18"), ("in", "age must be one of: 18, 19")])] :=
    part_of_report Report.messages ran (by decide +kernel)
  obtain ⟨_, _, own, _, present, planned, _⟩ :=
    failures_lossless Registry.empty sizes _ .null report ran
  refine ⟨report, ran, (own "age").trans (by rw [messages]; rfl), ?_⟩
  obtain ⟨value, found⟩ := Option.isSome_iff_exists.mp
    ((present "age").mpr ⟨by rw [messages]; decide, notes_ne_nil_iff.mp (by decide +kernel)⟩)
  rw [found, planned "age" value found]
  rfl

end Run

end FieldRules
