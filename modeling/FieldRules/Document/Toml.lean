import FieldRules.Document
import FieldRules.Toml.Reader

/-!
Definition files in TOML. The members of every table are taken over in the order of their keys.
Members that are unknown are skipped.
-/

namespace FieldRules.Document

/-- The values of the fields. -/
def fieldsOfToml? (value : Toml) : Option (List (String × Json)) :=
  value.members?.bind Toml.membersToJson?

def stringOfToml? : Toml → Option String
  | .string s => some s
  | _ => none

def textsOfToml? (value : Toml) : Option (List (String × String)) :=
  value.members?.bind fun members =>
    members.mapM fun (key, value) => (stringOfToml? value).map fun text => (key, text)

def messagesOfToml? (value : Toml) : Option (List (String × List (String × String))) :=
  value.members?.bind fun members =>
    members.mapM fun (key, value) => (textsOfToml? value).map fun texts => (key, texts)

def codeOfToml? : Toml → Option Code
  | .integer n => codeOfInt? n
  | _ => none

def setToml? (document : Document) (name : String) (value : Toml) : Option Document :=
  match name with
  | "fields" => (fieldsOfToml? value).map fun fields => { document with fields }
  | "messages" => (messagesOfToml? value).map fun messages => { document with messages }
  | "info" => (textsOfToml? value).map fun info => { document with info }
  | "failed_code" => (codeOfToml? value).map fun code => { document with failedCode := some code }
  | "succeed_code" => (codeOfToml? value).map fun code => { document with succeedCode := some code }
  | "failed_info" => (stringOfToml? value).map fun text => { document with failedInfo := some text }
  | "succeed_info" =>
    (stringOfToml? value).map fun text => { document with succeedInfo := some text }
  | _ => some document

def ofToml? (members : List (String × Toml)) : Option Document :=
  members.foldlM (fun document (name, value) => setToml? document name value) empty

def readToml? (text : String) : Option Document := (Toml.read? text).bind ofToml?

end FieldRules.Document
