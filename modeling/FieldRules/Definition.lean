import FieldRules.Outcome
import FieldRules.Schema
import FieldRules.Text.Quoted

/-!
Definitions of validators. A `Policy` is what a run asks of a definition, one answer for each
question; `Definition` is a policy held as data, and `Overridden` one that answers some questions
itself and leaves the rest to the defaults.
-/

namespace FieldRules

/-- The check of the whole input: what it does, given the input. -/
abbrev PostCheck := Source → List Action

def defaultFailedCode : Code := -1

def defaultSucceedCode : Code := -2

def defaultFailedInfo : String := "data is invalid"

def defaultSucceedInfo : String := "data is valid"

/-- Message templates for fields and rules, in place of the rules' own. -/
structure Overrides where
  templates : List (String × List (String × String))
deriving DecidableEq, Repr

namespace Overrides

def empty : Overrides := ⟨[]⟩

def insert (overrides : Overrides) (field rule template : String) : Overrides :=
  ⟨Ordered.putInner field rule template overrides.templates⟩

def get? (overrides : Overrides) (field rule : String) : Option String :=
  Ordered.getInner? field rule overrides.templates

def isEmpty (overrides : Overrides) : Bool := overrides.templates.isEmpty

end Overrides

/-- What a run asks of a definition. -/
structure Policy where
  schema : Schema
  template? : String → String → Option String
  info? : Code → Option String
  failedCode : Code
  succeedCode : Code
  failedInfo : String
  succeedInfo : String
  check : PostCheck
  resolveInfo : Code → String

namespace Policy

/-- The text for a final code: that of success, that of failure, the code's own, or none. -/
def standardInfo (succeedCode failedCode : Code) (succeedInfo failedInfo : String)
    (info? : Code → Option String) (code : Code) : String :=
  if code = succeedCode then succeedInfo
  else if code = failedCode then failedInfo
  else (info? code).getD ""

/-- A policy behind a reference: every question is passed on but the one for the text of a final
code, which is answered from the other answers. -/
def wrapped (policy : Policy) : Policy :=
  { policy with
    resolveInfo := standardInfo policy.succeedCode policy.failedCode policy.succeedInfo
      policy.failedInfo policy.info? }

end Policy

/-- The answers that a type of definitions gives itself; the others have defaults. -/
structure Overridden where
  schema : Schema
  template? : Option (String → String → Option String)
  info? : Option (Code → Option String)
  failedCode : Option Code
  succeedCode : Option Code
  failedInfo : Option String
  succeedInfo : Option String
  check : Option PostCheck
  resolveInfo : Option (Code → String)

namespace Overridden

def ofSchema (schema : Schema) : Overridden :=
  ⟨schema, none, none, none, none, none, none, none, none⟩

def policy (d : Overridden) : Policy :=
  let info? := d.info?.getD fun _ => none
  let failedCode := d.failedCode.getD defaultFailedCode
  let succeedCode := d.succeedCode.getD defaultSucceedCode
  let failedInfo := d.failedInfo.getD defaultFailedInfo
  let succeedInfo := d.succeedInfo.getD defaultSucceedInfo
  { schema := d.schema
    template? := d.template?.getD fun _ _ => none
    info?, failedCode, succeedCode, failedInfo, succeedInfo
    check := d.check.getD fun _ => [.succeed succeedCode]
    resolveInfo := d.resolveInfo.getD
      (Policy.standardInfo succeedCode failedCode succeedInfo failedInfo info?) }

end Overridden

/-- A definition held as data, built in a program or loaded from a file. -/
structure Definition where
  schema : Schema
  overrides : Overrides
  info : List (Code × String)
  failedCode : Code
  succeedCode : Code
  failedInfo : String
  succeedInfo : String
  check : Option PostCheck

namespace Definition

def ofSchema (schema : Schema) : Definition :=
  ⟨schema, Overrides.empty, [], defaultFailedCode, defaultSucceedCode, defaultFailedInfo,
    defaultSucceedInfo, none⟩

def withOverrides (d : Definition) (overrides : Overrides) : Definition := { d with overrides }

def withMessage (d : Definition) (field rule template : String) : Definition :=
  { d with overrides := d.overrides.insert field rule template }

def withInfo (d : Definition) (code : Code) (text : String) : Definition :=
  { d with info := Ordered.put code text d.info }

def withCodes (d : Definition) (failedCode succeedCode : Code) : Definition :=
  { d with failedCode, succeedCode }

def withDefaultInfo (d : Definition) (failedInfo succeedInfo : String) : Definition :=
  { d with failedInfo, succeedInfo }

def withCheck (d : Definition) (check : PostCheck) : Definition := { d with check := some check }

def info? (d : Definition) (code : Code) : Option String := Ordered.get? code d.info

def resolveInfo (d : Definition) : Code → String :=
  Policy.standardInfo d.succeedCode d.failedCode d.succeedInfo d.failedInfo d.info?

/-- The policy of a definition. Without a check of its own, passing all rules is success. -/
def policy (d : Definition) : Policy :=
  { schema := d.schema
    template? := d.overrides.get?
    info? := d.info?
    failedCode := d.failedCode
    succeedCode := d.succeedCode
    failedInfo := d.failedInfo
    succeedInfo := d.succeedInfo
    check := d.check.getD fun _ => [.succeed d.succeedCode]
    resolveInfo := d.resolveInfo }

def describeList (items : List String) : String := "[" ++ ", ".intercalate items ++ "]"

def describeMap (entries : List (String × String)) : String :=
  "\x7b" ++ ", ".intercalate (entries.map fun (key, value) => key ++ ": " ++ value) ++ "\x7d"

def describeSpec (spec : RuleSpec) : String :=
  "RuleSpec \x7b name: " ++ Text.quoted spec.name ++ ", params: " ++
    describeList (spec.params.map Text.quoted) ++ " \x7d"

def describeField (field : FieldDecl) : String :=
  "FieldDecl \x7b name: " ++ Text.quoted field.name ++ ", source: " ++
    Text.quoted field.source ++ ", rules: " ++ describeList (field.rules.map describeSpec) ++
    " \x7d"

def describe (d : Definition) : String :=
  "Definition \x7b schema: Schema \x7b fields: " ++
    describeList (d.schema.fields.map describeField) ++
    " \x7d, messages: MessageOverrides \x7b templates: " ++
    describeMap (d.overrides.templates.map fun (field, rules) =>
      (Text.quoted field, describeMap (rules.map fun (rule, template) =>
        (Text.quoted rule, Text.quoted template)))) ++
    " \x7d, info: " ++
    describeMap (d.info.map fun (code, text) => (toString code.toInt, Text.quoted text)) ++
    ", failed_code: " ++ toString d.failedCode.toInt ++
    ", succeed_code: " ++ toString d.succeedCode.toInt ++
    ", custom_check: " ++ (if d.check.isSome then "true" else "false") ++ " \x7d"

end Definition

end FieldRules
