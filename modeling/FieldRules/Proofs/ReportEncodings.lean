import FieldRules.Proofs.Flattening
import FieldRules.Proofs.JsonReading
import FieldRules.Proofs.Registrations

/-! The two JSON forms of a report. Its document keeps the order in which fields and rules
failed, its value has the members of each object in increasing order. No field has messages
twice and no rule twice in its field, so sorting loses none of them, and the text of the
document reads as the value. -/
namespace FieldRules

namespace Json

section Sorting

variable {α : Type} {members : List (String × α)}

theorem keys_insertMember (key : String) (value : α) (members : List (String × α)) :
    Ordered.keys (insertMember key value members) =
      Registry.insertName key (Ordered.keys members) := by
  induction members with
  | nil => rfl
  | cons entry rest ih =>
    obtain ⟨head, old⟩ := entry
    rw [insertMember, Ordered.keys_cons, Registry.insertName]
    split_ifs with less same
    · rfl
    · rw [Ordered.keys_cons, same]
    · rw [Ordered.keys_cons, ih]

theorem pairwise_keys_sortMembers (members : List (String × α)) :
    (Ordered.keys (sortMembers members)).Pairwise (· < ·) := by
  have keys : Ordered.keys (sortMembers members) =
      (Ordered.keys members).foldl (fun sorted name => Registry.insertName name sorted) [] := by
    conv_rhs => rw [Ordered.keys, List.foldl_map]
    exact (List.foldl_hom Ordered.keys fun sorted entry =>
      (keys_insertMember entry.1 entry.2 sorted).symm).symm
  rw [keys]
  exact (Registry.foldl_insertName _ List.Pairwise.nil).1

theorem perm_insertMember {key : String} (fresh : key ∉ Ordered.keys members) (value : α) :
    (insertMember key value members).Perm ((key, value) :: members) := by
  induction members with
  | nil => exact .refl _
  | cons entry rest ih =>
    obtain ⟨head, old⟩ := entry
    rw [Ordered.keys_cons, List.mem_cons, not_or] at fresh
    rw [insertMember, if_neg fresh.1]
    split
    · exact .refl _
    · exact ((ih fresh.2).cons _).trans (.swap _ _ _)

/-- Sorting loses no member if no two have the same key. -/
theorem perm_sortMembers (distinct : (Ordered.keys members).Nodup) :
    (sortMembers members).Perm members := by
  induction members using List.reverseRecOn with
  | nil => exact .refl _
  | append_singleton members entry ih =>
    obtain ⟨key, value⟩ := entry
    rw [Ordered.keys, List.map_append, List.nodup_append] at distinct
    obtain ⟨distinct, _, apart⟩ := distinct
    have sorted := ih distinct
    have fresh : key ∉ Ordered.keys (sortMembers members) := by
      intro member
      exact apart key ((sorted.map Prod.fst).mem_iff.mp member) key List.mem_cons_self rfl
    have last : sortMembers (members ++ [(key, value)]) =
        insertMember key value (sortMembers members) := List.foldl_append
    rw [last]
    refine (perm_insertMember fresh value).trans ?_
    exact (sorted.cons _).trans (List.perm_append_singleton _ _).symm

/-- The members of an object are the entries that it is made of. -/
theorem mem_sortMembers_map {entries : List (String × α)} (distinct : (Ordered.keys entries).Nodup)
    (json : α → Json) (key : String) (value : Json) :
    (key, value) ∈ sortMembers (entries.map fun (key, item) => (key, json item)) ↔
      ∃ item, (key, item) ∈ entries ∧ json item = value := by
  have keys : Ordered.keys (entries.map fun (key, item) => (key, json item)) =
      Ordered.keys entries := List.map_map
  rw [(perm_sortMembers (keys ▸ distinct)).mem_iff, List.mem_map]
  constructor
  · rintro ⟨⟨_, item⟩, member, same⟩
    obtain ⟨rfl, rfl⟩ := Prod.mk.inj same
    exact ⟨item, member, rfl⟩
  · rintro ⟨item, member, rfl⟩
    exact ⟨(key, item), member, rfl⟩

end Sorting

namespace Literal

/-- Digits that stand for a number of 64 bits are taken in one piece. -/
theorem absorb_of_le {digits : List Char} {significand : Nat}
    (fits : Nat.ofDigitChars 10 digits significand ≤ maxSignificand) :
    absorb significand digits = (Nat.ofDigitChars 10 digits significand, []) := by
  induction digits generalizing significand with
  | nil => rfl
  | cons c rest ih =>
    rw [Nat.ofDigitChars_cons, Nat.mul_comm] at fits
    rw [Nat.ofDigitChars_cons, Nat.mul_comm]
    have below : significand * 10 + (c.toNat - '0'.toNat) ≤ maxSignificand := by
      refine Nat.le_trans ?_ fits
      rw [Nat.ofDigitChars_eq_ofDigitChars_zero]
      exact Nat.le_trans (Nat.le_mul_of_pos_left _ (Nat.pow_pos (by decide))) (Nat.le_add_right _ _)
    rw [absorb, if_pos below]
    exact ih fits

theorem value?_ofInt {n : Int} (low : Int64.minValue.toInt ≤ n) (high : n ≤ maxSignificand) :
    (ofInt n).value? = some (.integer n) := by
  have least : Int64.minValue.toInt = -2 ^ 63 := rfl
  have most : maxSignificand = 2 ^ 64 - 1 := rfl
  have whole : absorb 0 (Nat.toDigits 10 n.natAbs) = (n.natAbs, []) := by
    have digits := Nat.ofDigitChars_ten_toDigits (n := n.natAbs)
    rw [absorb_of_le (by omega), digits]
  simp only [ofInt, value?, whole]
  by_cases negative : n < 0
  · have size : -(n.natAbs : Int) = n := by omega
    rw [if_neg (by simp), if_neg (by simp [negative]), size, if_pos ⟨by omega, low⟩]
  · have size : (n.natAbs : Int) = n := by omega
    rw [if_neg (by simp), if_pos (by simp [negative]), size]

end Literal

namespace Tree

theorem value?_ofString (room : Nat) (text : String) :
    value? room (ofString text) = some (.string text) := by
  simp only [ofString, value?, Piece.string?_ofString, Option.map_some]

theorem value?_ofMembers {α : Type} (members : List (String × α)) (tree : α → Tree)
    (json : α → Json) {room : Nat}
    (each : ∀ member ∈ members, value? room (tree member.2) = some (json member.2)) :
    value? (room + 1) (ofMembers (members.map fun (key, item) => (key, tree item))) =
      some (.ofMembers (members.map fun (key, item) => (key, json item))) := by
  have values : memberValues? room (membersOf (members.map fun (key, item) => (key, tree item))) =
      some (members.map fun (key, item) => (key, json item)) := by
    induction members with
    | nil => rfl
    | cons member rest ih =>
      obtain ⟨key, item⟩ := member
      have here : value? room (tree item) = some (json item) := each _ List.mem_cons_self
      have later := ih fun member listed => each member (List.mem_cons_of_mem _ listed)
      rw [membersOf] at later
      simp only [List.map_cons, membersOf, memberValues?, Piece.string?_ofString, here, later]
  rw [ofMembers, value?, ← membersOf, values, Option.map_some]

end Tree

end Json

namespace Report

theorem value?_messagesTree (messages : Messages) (room : Nat) :
    Json.Tree.value? (room + 2) (messagesTree messages) = some (messagesJson messages) := by
  refine Json.Tree.value?_ofMembers messages
    (fun rules => .ofMembers (rules.map fun entry => (entry.1, .ofString entry.2)))
    (fun rules => .ofMembers (rules.map fun entry => (entry.1, .string entry.2))) ?_
  rintro ⟨field, rules⟩ _
  refine Json.Tree.value?_ofMembers rules .ofString .string ?_
  intro entry _
  exact Json.Tree.value?_ofString room entry.2

theorem plain_messagesTree (messages : Messages) : (messagesTree messages).Plain := by
  refine .object ?_
  intro member listed
  obtain ⟨⟨field, rules⟩, _, rfl⟩ := List.mem_map.mp listed
  refine .object ?_
  intro member listed
  obtain ⟨⟨rule, message⟩, _, rfl⟩ := List.mem_map.mp listed
  exact .string message

variable (report : Report)

theorem value?_tree (room : Nat) :
    Json.Tree.value? (room + 3) report.tree = some report.json := by
  have code : Json.Tree.value? (room + 2) (.ofInt report.code.toInt) =
      some (codeJson report.code) := by
    have low := Int32.le_toInt report.code
    have high := Int32.toInt_lt report.code
    refine Json.Literal.value?_ofInt (Int.le_trans (by decide) low) ?_
    exact Int.le_trans (Int.le_of_lt high) (by decide)
  refine Json.Tree.value?_ofMembers
    [("status", Json.Tree.bool report.status, Json.bool report.status),
      ("code", .ofInt report.code.toInt, codeJson report.code),
      ("messages", messagesTree report.messages, messagesJson report.messages),
      ("info", .ofString report.info, .string report.info)] Prod.fst Prod.snd ?_
  simp only [List.forall_mem_cons, List.not_mem_nil, false_imp_iff, implies_true, and_true]
  exact ⟨rfl, code, value?_messagesTree report.messages room,
    Json.Tree.value?_ofString (room + 2) report.info⟩

theorem plain_tree : report.tree.Plain := by
  refine .object ?_
  simp only [List.forall_mem_cons, List.not_mem_nil, false_imp_iff, implies_true, and_true]
  exact ⟨.bool report.status, .integer report.code.toInt, plain_messagesTree report.messages,
    .string report.info⟩

theorem read?_text : Json.read? report.tree.text = some report.json :=
  (Json.read?_text report.plain_tree).trans (report.value?_tree 124)

end Report

namespace Messages

def ruleMembers (rules : List (String × String)) : List (String × Json) :=
  Json.sortMembers (rules.map fun (rule, message) => (rule, .string message))

def fieldMembers (messages : Messages) : List (String × Json) :=
  Json.sortMembers (messages.map fun (field, rules) => (field, .object (ruleMembers rules)))

variable {messages : Messages} (wellFormed : messages.WellFormed)
include wellFormed

/-- A field stands in the object just as it does in the messages. -/
theorem WellFormed.mem_fieldMembers (field : String) (value : Json) :
    (field, value) ∈ messages.fieldMembers ↔
      ∃ rules, (field, rules) ∈ messages ∧ .object (ruleMembers rules) = value :=
  Json.mem_sortMembers_map wellFormed.distinct (fun rules => .object (ruleMembers rules)) field
    value

theorem WellFormed.mem_ruleMembers {field : String} {rules : List (String × String)}
    (listed : (field, rules) ∈ messages) (rule : String) (value : Json) :
    (rule, value) ∈ ruleMembers rules ↔
      ∃ message, (rule, message) ∈ rules ∧ .string message = value :=
  Json.mem_sortMembers_map (wellFormed.rules _ listed) .string rule value

theorem WellFormed.exists_ruleMembers {field : String} {value : Json}
    (member : (field, value) ∈ messages.fieldMembers) :
    ∃ rules, value = .object rules ∧ rules ≠ [] ∧ (Ordered.keys rules).Pairwise (· < ·) ∧
      ∀ rule value, (rule, value) ∈ rules → ∃ message, value = .string message := by
  obtain ⟨rules, listed, rfl⟩ := (wellFormed.mem_fieldMembers field value).mp member
  refine ⟨ruleMembers rules, rfl, ?_, Json.pairwise_keys_sortMembers _, ?_⟩
  · obtain ⟨⟨rule, message⟩, rest, rfl⟩ :=
      List.exists_cons_of_ne_nil (wellFormed.nonempty _ listed)
    exact List.ne_nil_of_mem
      ((wellFormed.mem_ruleMembers listed rule (.string message)).mpr
        ⟨message, List.mem_cons_self, rfl⟩)
  · intro rule value member
    obtain ⟨message, _, rfl⟩ := (wellFormed.mem_ruleMembers listed rule value).mp member
    exact ⟨message, rfl⟩

theorem WellFormed.getInner?_iff (field rule message : String) :
    Ordered.getInner? field rule messages = some message ↔
      ∃ rules, (field, .object rules) ∈ messages.fieldMembers ∧
        (rule, .string message) ∈ rules := by
  rw [← wellFormed.mem_entries ⟨field, rule, message⟩]
  constructor
  · intro member
    obtain ⟨⟨_, rules⟩, listed, written⟩ := List.mem_flatMap.mp member
    obtain ⟨⟨_, _⟩, there, same⟩ := List.mem_map.mp written
    obtain ⟨rfl, rfl, rfl⟩ := Note.mk.injEq .. ▸ same
    exact ⟨ruleMembers rules, (wellFormed.mem_fieldMembers _ _).mpr ⟨rules, listed, rfl⟩,
      (wellFormed.mem_ruleMembers listed _ _).mpr ⟨_, there, rfl⟩⟩
  · rintro ⟨members, here, there⟩
    obtain ⟨rules, listed, same⟩ := (wellFormed.mem_fieldMembers field _).mp here
    obtain rfl := Json.object.inj same
    obtain ⟨text, written, same⟩ := (wellFormed.mem_ruleMembers listed rule _).mp there
    obtain rfl := Json.string.inj same
    exact List.mem_flatMap.mpr
      ⟨(field, rules), listed, List.mem_map.mpr ⟨(rule, text), written, rfl⟩⟩

/-- The document has the fields, and the rules of a field, in the order of the messages. -/
theorem WellFormed.exists_messagesTree :
    ∃ fields, Report.messagesTree messages = .ofMembers fields ∧
      Ordered.keys fields = Ordered.keys messages ∧
      ∀ field tree, (field, tree) ∈ fields → ∃ rules, tree = .ofMembers rules ∧
        Ordered.keys rules = Ordered.keys (messages.ofField field) := by
  refine ⟨_, rfl, List.map_map, ?_⟩
  intro field tree member
  obtain ⟨⟨_, rules⟩, listed, same⟩ := List.mem_map.mp member
  obtain ⟨rfl, rfl⟩ := Prod.mk.inj same
  refine ⟨_, rfl, ?_⟩
  rw [ofField, Ordered.get?_of_mem wellFormed.distinct listed, Option.getD_some]
  exact List.map_map

end Messages

namespace Run

/-- The two JSON forms of any report that a run gives. The text of the document reads as the
value. The document has its members in a fixed order and the messages in theirs, the value has
all of them in increasing order. There are four members and no others; below the messages there
is a text for each field and rule that have a message, and none besides. The values of failed
fields are in neither form. -/
theorem encodings_agree (registry : Registry) (policy : Policy) (source : Source) (absent : Json)
    (report : Report) (ran : validate registry policy source absent = .ok report) :
    Json.read? report.tree.text = some report.json ∧
    (∃ fields, report.tree = .ofMembers [("status", .bool report.status),
        ("code", .ofInt report.code.toInt), ("messages", .ofMembers fields),
        ("info", .ofString report.info)] ∧
      Ordered.keys fields = Ordered.keys report.messages ∧
      ∀ field tree, (field, tree) ∈ fields → ∃ rules, tree = .ofMembers rules ∧
        Ordered.keys rules = Ordered.keys (report.messages.ofField field)) ∧
    (∃ fields, report.json = .object [("code", .integer report.code.toInt),
        ("info", .string report.info), ("messages", .object fields),
        ("status", .bool report.status)] ∧
      (Ordered.keys fields).Pairwise (· < ·) ∧
      (∀ field value, (field, value) ∈ fields → ∃ rules, value = .object rules ∧ rules ≠ [] ∧
        (Ordered.keys rules).Pairwise (· < ·) ∧
        ∀ rule value, (rule, value) ∈ rules → ∃ message, value = .string message) ∧
      ∀ field rule message, report.message? field rule = some message ↔
        ∃ rules, (field, .object rules) ∈ fields ∧ (rule, .string message) ∈ rules) ∧
    ∀ values, { report with values }.tree.text = report.tree.text ∧
      { report with values }.json = report.json := by
  obtain ⟨noted, messages⟩ := exists_notes_of_report ran
  have wellFormed : report.messages.WellFormed := by
    rw [messages]
    exact Messages.wellFormed_ofNotes noted
  refine ⟨report.read?_text, ?_, ⟨report.messages.fieldMembers, rfl,
    Json.pairwise_keys_sortMembers _, ?_, ?_⟩, fun _ => ⟨rfl, rfl⟩⟩
  · obtain ⟨fields, written, order⟩ := wellFormed.exists_messagesTree
    refine ⟨fields, ?_, order⟩
    rw [Report.tree, written]
  · intro field value member
    exact wellFormed.exists_ruleMembers member
  · intro field rule message
    exact wellFormed.getInner?_iff field rule message

/-- Two fields with marks that are escaped, declared against the order of their names. -/
def quotedNames : Policy :=
  let schema := Schema.ofDeclarations [("say \"b\"", "max:1"), ("a\\", "min:18")]
  ((Definition.ofSchema schema).withMessage "a\\" "min" "\x07 too\nyoung").policy

theorem encodings_agree_quotedNames :
    ∃ report, validate Registry.empty quotedNames (Source.ofJson (.object
        [("a\\", .integer 7), ("say \"b\"", .integer 2)])) .null = .ok report ∧
      Ordered.keys report.messages = ["say \"b\"", "a\\"] ∧
      Json.read? report.tree.text = some report.json ∧
      ∃ fields rules, report.json = .object [("code", .integer (-1)),
          ("info", .string "data is invalid"), ("messages", .object fields),
          ("status", .bool false)] ∧
        ("a\\", .object rules) ∈ fields ∧ ("min", .string "\x07 too\nyoung") ∈ rules := by
  obtain ⟨report, ran⟩ := (validate_ok_iff (Source.ofJson (.object
    [("a\\", .integer 7), ("say \"b\"", .integer 2)])) .null).mpr
      (show Registry.empty.ResolvesAll quotedNames.schema by decide +kernel)
  have order : Ordered.keys report.messages = ["say \"b\"", "a\\"] :=
    part_of_report (fun report => Ordered.keys report.messages) ran (by decide +kernel)
  have parts : (report.code, report.info, report.status) = (-1, "data is invalid", false) :=
    part_of_report (fun report => (report.code, report.info, report.status)) ran
      (by decide +kernel)
  have young : report.message? "a\\" "min" = some "\x07 too\nyoung" :=
    part_of_report (Report.message? · "a\\" "min") ran (by decide +kernel)
  obtain ⟨code, info, status⟩ : report.code = -1 ∧ report.info = "data is invalid" ∧
      report.status = false := by simpa using parts
  obtain ⟨read, _, ⟨fields, value, _, _, every⟩, _⟩ :=
    encodings_agree Registry.empty quotedNames _ .null report ran
  obtain ⟨rules, here, there⟩ := (every "a\\" "min" _).mp young
  refine ⟨report, ran, order, read, fields, rules, ?_, here, there⟩
  rw [value, code, info, status]
  rfl

end Run

end FieldRules
