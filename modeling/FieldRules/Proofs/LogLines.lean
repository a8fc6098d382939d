import FieldRules.Proofs.Pieces
import FieldRules.Proofs.Rendering
import FieldRules.Proofs.Resolution

/-! Log records as lines. A record as JSON is one line, whatever its texts are: no control
character is left in a string that is written. The other texts take the target and the message as
they are, so a record has a line more for every line feed there. The records of a run carry the
names of fields and rules, and the messages of failures. -/
namespace FieldRules

def feeds (text : String) : Nat := text.toList.count '\n'

@[simp] theorem feeds_append (first second : String) :
    feeds (first ++ second) = feeds first + feeds second := by
  rw [feeds, String.toList_append, List.count_append]
  rfl

theorem feeds_eq_zero_iff {text : String} : feeds text = 0 ↔ '\n' ∉ text.toList :=
  List.count_eq_zero

theorem feeds_toString_nat (n : Nat) : feeds (toString n) = 0 := by
  rw [feeds_eq_zero_iff]
  intro member
  exact absurd (Template.isDigit_of_mem_toString member) (by decide)

theorem feeds_toString_int (n : Int) : feeds (toString n) = 0 := by
  cases n with
  | ofNat n => exact feeds_toString_nat n
  | negSucc n =>
    have minus : toString (Int.negSucc n) = "-" ++ toString (n + 1) := rfl
    rw [minus, feeds_append, feeds_toString_nat]
    decide

namespace Json

/-- Control characters are escaped. -/
theorem Piece.visible_of_mem_render {c d : Char} (member : d ∈ (Piece.char c).render) :
    0x20 ≤ d.toNat := by
  have digits : ∀ n < 0x20, (fourDigits n).all (fun d => decide (0x20 ≤ d.toNat)) = true := by
    decide
  have escape {e : Char} (shown : 0x20 ≤ e.toNat) (member : d ∈ ['\\', e]) : 0x20 ≤ d.toNat := by
    rcases List.mem_pair.mp member with rfl | rfl
    · decide
    · exact shown
  rw [render] at member
  split_ifs at member with _ _ _ _ _ _ _ control
  any_goals exact escape (by decide) member
  · rcases List.mem_cons.mp member with rfl | member
    · decide
    · rcases List.mem_cons.mp member with rfl | member
      · decide
      · exact of_decide_eq_true (List.all_eq_true.mp (digits _ control) d member)
  · rw [List.mem_singleton.mp member]
    exact Nat.not_lt.mp control

theorem Piece.visible_of_mem_renderAll {text : String} {d : Char}
    (member : d ∈ Piece.renderAll (Piece.ofString text)) : 0x20 ≤ d.toNat := by
  rw [renderAll, List.mem_cons, List.mem_append, List.mem_singleton] at member
  rcases member with rfl | member | rfl
  · decide
  · obtain ⟨piece, written, member⟩ := List.mem_flatMap.mp member
    obtain ⟨c, _, rfl⟩ := List.mem_map.mp written
    exact visible_of_mem_render member
  · decide

theorem Tree.visible_of_mem_renderMembers {texts : List (String × String)} {written : List Char}
    (member : written ∈ renderMembers ((texts.map fun (key, text) => (key, Tree.ofString text)).map
      fun (key, value) => (Piece.ofString key, value))) : ∀ d ∈ written, 0x20 ≤ d.toNat := by
  induction texts with
  | nil => contradiction
  | cons entry rest ih =>
    obtain ⟨key, text⟩ := entry
    rcases List.mem_cons.mp member with rfl | later
    · intro d member
      rw [List.mem_append, List.mem_cons, Tree.ofString, render] at member
      rcases member with here | rfl | here
      · exact Piece.visible_of_mem_renderAll here
      · decide
      · exact Piece.visible_of_mem_renderAll here
    · exact ih later

theorem Tree.visible_of_mem_ofMembers (texts : List (String × String)) {d : Char}
    (member : d ∈ (ofMembers (texts.map fun (key, text) => (key, Tree.ofString text))).render) :
    0x20 ≤ d.toNat := by
  rw [ofMembers, render, List.mem_cons, List.mem_append, List.mem_singleton] at member
  rcases member with rfl | member | rfl
  · decide
  · rcases Text.mem_joinChars member with comma | ⟨written, listed, here⟩
    · rw [List.mem_singleton.mp comma]
      decide
    · exact visible_of_mem_renderMembers listed d here
  · decide

end Json

namespace Record

theorem feeds_padded (width : Nat) (text : String) : feeds (padded width text) = feeds text := by
  have blanks : feeds (String.ofList (List.replicate (width - text.length) ' ')) = 0 := by
    rw [feeds_eq_zero_iff, String.toList_ofList]
    intro member
    exact absurd (List.eq_of_mem_replicate member) (by decide)
  rw [padded, feeds_append, blanks, Nat.add_zero]

theorem feeds_level (level : Level) :
    feeds level.name = 0 ∧ feeds (String.ofList (level.name.toList.take 1)) = 0 := by
  cases level <;> decide

/-- A record becomes a line that holds some line feeds before the one that ends it. -/
def Writes (emission : Emission) (inner : Nat) : Prop :=
  ∃ line, emission = .text (line ++ "\n") ∧ feeds line = inner

theorem Writes.unique {emission : Emission} {inner inner' : Nat} (writes : Writes emission inner)
    (writes' : Writes emission inner') : inner = inner' := by
  obtain ⟨line, written, rfl⟩ := writes
  obtain ⟨line', written', rfl⟩ := writes'
  have same : line ++ "\n" = line' ++ "\n" := Emission.text.inj (written.symm.trans written')
  have count := congrArg feeds same
  rw [feeds_append, feeds_append] at count
  exact Nat.add_right_cancel count

theorem emit_json (record : Record) (time : Option String) (jsonTime : String) :
    Writes (record.emit .json time jsonTime) 0 := by
  refine ⟨_, rfl, ?_⟩
  rw [feeds_eq_zero_iff, Json.Tree.text, String.toList_ofList]
  intro member
  have visible : 0x20 ≤ '\n'.toNat :=
    Json.Tree.visible_of_mem_ofMembers [("timestamp", jsonTime),
      ("level", record.level.name), ("target", record.target), ("message", record.message)] member
  exact absurd visible (by decide)

theorem emit_plain (record : Record) (time : Option String) (jsonTime : String) :
    ∀ format ∈ [LogFormat.pretty, .compact], Writes (record.emit format time jsonTime)
      (feeds (time.getD "") + feeds record.target + feeds record.message) := by
  obtain ⟨whole, letter⟩ := feeds_level record.level
  have empty : feeds "" = 0 := rfl
  have marks : feeds " " = 0 ∧ feeds " [" = 0 ∧ feeds "] " = 0 ∧ feeds ": " = 0 := by decide
  rw [List.forall_mem_cons, List.forall_mem_singleton]
  constructor
  · refine ⟨_, rfl, ?_⟩
    cases time <;> simp [feeds_padded, whole, marks, empty]
  · refine ⟨_, rfl, ?_⟩
    cases time <;> simp [letter, marks, empty]

end Record

namespace Run

variable {registry : Registry} {policy : Policy} {source : Source} {absent : Json}

theorem feeds_failureRecord (field rule message : String) :
    feeds (failureRecord field rule message).message = feeds field + feeds rule + feeds message := by
  have marks : feeds "." = 0 ∧ feeds " failed: " = 0 := by decide
  simp [failureRecord, marks]

theorem feeds_errorRecord (field rule : String) :
    feeds (errorRecord (.unknownRule field rule)).message = feeds rule + feeds field := by
  have words : feeds "Unknown rule '" = 0 := by decide
  have words' : feeds "' declared for field '" = 0 := by decide
  have mark : feeds "'" = 0 := by decide
  have text : (errorRecord (.unknownRule field rule)).message =
    "Unknown rule '" ++ rule ++ "' declared for field '" ++ field ++ "'" := rfl
  rw [text, feeds_append, feeds_append, feeds_append, feeds_append, words, words', mark]
  omega

theorem feeds_registrationRecord (name : String) :
    feeds (registrationRecord name).message = feeds name := by
  have words : feeds "registering rule '" = 0 ∧ feeds "'" = 0 := by decide
  rw [registrationRecord, feeds_append, feeds_append, words.1, words.2, Nat.zero_add, Nat.add_zero]

/-- What a record of a run is about, if it is not about the run as a whole. -/
inductive Concerns (registry : Registry) (policy : Policy) (source : Source) (absent : Json) :
    Record → Prop
  | failure {note : Note} : note ∈ reachedNotes registry policy source absent →
    Concerns registry policy source absent (failureRecord note.field note.rule note.text)
  | unknown {field : String} {spec : RuleSpec} : (field, spec) ∈ policy.schema.declared →
    Concerns registry policy source absent (errorRecord (.unknownRule field spec.name))
  | registration {name : String} {factory : Factory} :
    (name, factory) ∈ (run registry policy source absent).registrations →
    Concerns registry policy source absent (registrationRecord name)

theorem feeds_startRecord (fields : Nat) : feeds (startRecord fields).message = 0 := by
  have words : feeds "validating " = 0 ∧ feeds " fields" = 0 := by decide
  rw [startRecord, feeds_append, feeds_append, feeds_toString_nat, words.1, words.2]

theorem feeds_finishRecord (outcome : Outcome) : feeds (finishRecord outcome).message = 0 := by
  have words : feeds "validation finished: status=" = 0 ∧ feeds " code=" = 0 ∧
    feeds " failed_fields=" = 0 := by decide
  have status : feeds (if outcome.status then "true" else "false") = 0 := by
    cases outcome.status <;> decide
  rw [finishRecord, feeds_append, feeds_append, feeds_append, feeds_append, feeds_append,
    feeds_toString_int, feeds_toString_nat, status, words.1, words.2.1, words.2.2]

theorem records_phase {record : Record} {fields : Nat} {notes : List Note}
    (noted : notes = reachedNotes registry policy source absent)
    (member : record ∈ phaseRecords fields notes) :
    feeds record.target = 0 ∧
      (feeds record.message = 0 ∨ Concerns registry policy source absent record) := by
  have engine : feeds Record.engineTarget = 0 := by decide
  rcases List.mem_cons.mp member with rfl | failed
  · exact ⟨engine, .inl (feeds_startRecord fields)⟩
  · obtain ⟨note, listed, rfl⟩ := List.mem_map.mp failed
    rw [noted] at listed
    exact ⟨engine, .inr (.failure listed)⟩

/-- Line feeds stand in the message of a record of a run only if it concerns something with a name
or a text of its own; none stand in its target. -/
theorem feeds_records {record : Record}
    (member : record ∈ (run registry policy source absent).records) :
    feeds record.target = 0 ∧
      (feeds record.message = 0 ∨ Concerns registry policy source absent record) := by
  have engine : feeds Record.engineTarget = 0 := by decide
  have rules : feeds Record.rulesTarget = 0 := by decide
  cases first : registry.firstUnknown? policy.schema.declared with
  | some found =>
    obtain ⟨field, spec⟩ := found
    rw [run, fieldPhase_stopped source absent first] at member
    rcases List.mem_append.mp member with before | last
    · exact records_phase rfl before
    · obtain rfl := List.mem_singleton.mp last
      exact ⟨engine, .inr (.unknown (List.mem_of_find?_eq_some first))⟩
  | none =>
    have resolved := (Registry.firstUnknown?_eq_none_iff policy.schema).mp first
    obtain ⟨p, ran, _, records⟩ := fieldPhase_resolved resolved source absent
    have ended : run registry policy source absent = finish policy source p := by rw [run, ran]
    have made : (run registry policy source absent).registrations =
        (checkActions policy source p.outcome).filterMap Action.registration? := by
      rw [ended]
      rfl
    rw [ended, finish, records] at member
    rcases List.mem_append.mp member with member | last
    · rcases List.mem_append.mp member with before | checked
      · exact records_phase (reachedNotes_resolved source absent resolved).symm before
      · split at checked
        · rcases List.mem_cons.mp checked with rfl | registered
          · exact ⟨engine, .inl (by decide)⟩
          · obtain ⟨⟨name, factory⟩, listed, rfl⟩ := List.mem_map.mp registered
            rw [← made] at listed
            exact ⟨rules, .inr (.registration listed)⟩
        · contradiction
    · obtain rfl := List.mem_singleton.mp last
      exact ⟨engine, .inl (feeds_finishRecord _)⟩

end Run

/-- A record in JSON is one line, for all texts. In the other texts it has a line more for every
line feed in its target and its message, so it is one line just if there is none. In a run there is
one for every line feed in the message of a failure, the name of its field and that of its rule,
and for those in other names that a record is about. -/
theorem Record.line_feeds (record : Record) (time : Option String) (jsonTime : String) :
    (∀ inner, Writes (record.emit .json time jsonTime) inner ↔ inner = 0) ∧
      (∀ format ∈ [LogFormat.pretty, .compact], ∀ inner,
        Writes (record.emit format time jsonTime) inner ↔
          inner = feeds (time.getD "") + feeds record.target + feeds record.message) ∧
      (∀ registry policy source absent, record ∈ (run registry policy source absent).records →
        feeds record.target = 0 ∧
          (feeds record.message = 0 ∨ Run.Concerns registry policy source absent record)) ∧
      ∀ field rule message,
        feeds (Run.failureRecord field rule message).message =
            feeds field + feeds rule + feeds message ∧
          feeds (Run.errorRecord (.unknownRule field rule)).message = feeds rule + feeds field ∧
          feeds (Run.registrationRecord rule).message = feeds rule := by
  have exactly {emission : Emission} {count : Nat} (writes : Writes emission count) (inner : Nat) :
      Writes emission inner ↔ inner = count :=
    ⟨fun writes' => writes'.unique writes, fun same => same ▸ writes⟩
  refine ⟨exactly (emit_json record time jsonTime), ?_, ?_, ?_⟩
  · intro format listed
    exact exactly (emit_plain record time jsonTime format listed)
  · intro registry policy source absent member
    exact Run.feeds_records member
  · intro field rule message
    exact ⟨Run.feeds_failureRecord field rule message, Run.feeds_errorRecord field rule,
      Run.feeds_registrationRecord rule⟩

/-- A message with a line feed comes out as two lines. -/
theorem Record.line_feeds_kept :
    emit ⟨.info, "main", "first\nsecond"⟩ .pretty none "" = .text "INFO  [main] first\nsecond\n" ∧
      feeds "INFO  [main] first\nsecond\n" = 2 ∧
      ¬ ∀ record time jsonTime, Writes (emit record .pretty time jsonTime) 0 := by
  have emitted : emit ⟨.info, "main", "first\nsecond"⟩ .pretty none "" =
      .text "INFO  [main] first\nsecond\n" := by decide +kernel
  have two : feeds "INFO  [main] first\nsecond\n" = 2 := by decide
  refine ⟨emitted, two, fun always => ?_⟩
  obtain ⟨line, same, none⟩ := always ⟨.info, "main", "first\nsecond"⟩ none ""
  rw [emitted, Emission.text.injEq] at same
  have count : feeds (line ++ "\n") = 1 := by
    rw [feeds_append, none]
    decide
  rw [← same, two] at count
  contradiction

end FieldRules
