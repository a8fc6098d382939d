import FieldRules.Outcome
import FieldRules.Json.Tree
import FieldRules.Rule.Value

/-!
The report of a run and the list of failures in it. A report has two JSON forms: `Report.json`, a
value whose objects have no order, and `Report.tree`, a document that keeps the order of its
members.
-/

namespace FieldRules

/-- One failed rule of one field. -/
structure Failure where
  field : String
  message : String
  rule : String
  value : Option String
deriving DecidableEq, Repr

namespace Failure

/-- A failure of no named rule. -/
def custom (field message : String) : Failure := ⟨field, message, "custom", none⟩

def text (failure : Failure) : String :=
  failure.field ++ "." ++ failure.rule ++ ": " ++ failure.message

def json (failure : Failure) : Json :=
  .ofMembers [("field", .string failure.field), ("message", .string failure.message),
    ("constraint", .string failure.rule),
    ("value", match failure.value with
      | some value => .string value
      | none => .null)]

def listText (failures : List Failure) : String :=
  String.join (failures.map fun failure => failure.text ++ "\n")

/-- The JSON form of a list of failures, under one member. -/
def listMembers (failures : List Failure) : List (String × Json) :=
  [("errors", .array (failures.map json))]

def ofField (failures : List Failure) (field : String) : List Failure :=
  failures.filter fun failure => failure.field == field

end Failure

/-- What a run reports: its status, its code with the text for it, the messages, and the value of
each field that failed a rule. -/
structure Report where
  status : Bool
  code : Code
  messages : Messages
  info : String
  values : List (String × Json)

namespace Report

def message? (report : Report) (field rule : String) : Option String :=
  Ordered.getInner? field rule report.messages

/-- The value that a failed field had. Fields with messages from the check of the whole input alone
have none. -/
def failedValue? (report : Report) (field : String) : Option Json :=
  Ordered.get? field report.values

/-- The failures in the order of the messages, each with the text of its field's value. -/
def failures (report : Report) : List Failure :=
  report.messages.flatMap fun (field, rules) =>
    let value := (report.failedValue? field).bind Json.recordText?
    rules.map fun (rule, message) => ⟨field, message, rule, value⟩

def codeJson (code : Code) : Json := .integer code.toInt

def messagesJson (messages : Messages) : Json :=
  .ofMembers (messages.map fun (field, rules) =>
    (field, .ofMembers (rules.map fun (rule, message) => (rule, .string message))))

def json (report : Report) : Json :=
  .ofMembers [("status", .bool report.status), ("code", codeJson report.code),
    ("messages", messagesJson report.messages), ("info", .string report.info)]

def messagesTree (messages : Messages) : Json.Tree :=
  .ofMembers (messages.map fun (field, rules) =>
    (field, .ofMembers (rules.map fun (rule, message) => (rule, .ofString message))))

/-- The report as a document. The values of failed fields are left out. -/
def tree (report : Report) : Json.Tree :=
  .ofMembers [("status", .bool report.status), ("code", .ofInt report.code.toInt),
    ("messages", messagesTree report.messages), ("info", .ofString report.info)]

/-- The body of an answer about a failed run: its failures, its code and the text for it. -/
def errorBody (report : Report) : Json :=
  .ofMembers (Failure.listMembers report.failures ++
    [("code", codeJson report.code), ("info", .string report.info)])

/-- Equality of reports, with messages and values as maps and values compared as JSON. -/
def same (a b : Report) : Bool :=
  a.status == b.status && a.code == b.code && a.info == b.info &&
    (messagesJson a.messages).same (messagesJson b.messages) &&
    (Json.ofMembers a.values).same (Json.ofMembers b.values)

end Report

end FieldRules
