import FieldRules.ConfigError
import FieldRules.Definition
import FieldRules.Number.Numeral

/-!
Definition files. A document is what a file says; making a definition of it keeps the fields that
are declarations and turns the keys of the information texts into codes.
-/

namespace FieldRules

/-- The contents of a definition file. Messages and information texts are listed in the order in
which they are taken over. -/
structure Document where
  fields : List (String × Json)
  messages : List (String × List (String × String))
  info : List (String × String)
  failedCode : Option Code
  succeedCode : Option Code
  failedInfo : Option String
  succeedInfo : Option String

namespace Document

def empty : Document := ⟨[], [], [], none, none, none, none⟩

def codeOfInt? (n : Int) : Option Code :=
  if Int32.minValue.toInt ≤ n ∧ n ≤ Int32.maxValue.toInt then some (Int32.ofInt n) else none

/-- The code that a text writes, with white space around it. -/
def code? (text : String) : Option Code :=
  (Numeral.int? (Text.trimChars text.toList)).bind codeOfInt?

def overrides (document : Document) : Overrides :=
  document.messages.foldl (fun overrides (field, rules) =>
    rules.foldl (fun overrides (rule, template) => overrides.insert field rule template) overrides)
    Overrides.empty

def keyError (key : String) : ConfigError :=
  .parse ("info key '" ++ key ++ "' is not an integer code")

/-- Takes over information texts one after the other; the first key that is no code ends it. -/
def addInfo (d : Definition) : List (String × String) → Except ConfigError Definition
  | [] => .ok d
  | (key, text) :: rest =>
    match code? key with
    | some code => addInfo (d.withInfo code text) rest
    | none => .error (keyError key)

def toDefinition (document : Document) : Except ConfigError Definition :=
  let d := (Definition.ofSchema (Schema.discover document.fields)).withOverrides document.overrides
  match addInfo d document.info with
  | .error error => .error error
  | .ok d =>
    .ok { d with
      failedCode := document.failedCode.getD d.failedCode
      succeedCode := document.succeedCode.getD d.succeedCode
      failedInfo := document.failedInfo.getD d.failedInfo
      succeedInfo := document.succeedInfo.getD d.succeedInfo }

end Document

end FieldRules
