import FieldRules.Document
import FieldRules.Json.Reader

/-!
Definition files in JSON. A file is an object with the members of a document, or an array that
lists them in order; members that are missing keep their defaults. Unknown members are skipped
without a look at their values, and no known one may be given twice. Within a map the last of
several members with one key counts, at the place of the first.
-/

namespace FieldRules.Document

open Json (Tree Piece)

/-- How deep a map of the document may be nested in. -/
def mapRoom : Nat := Json.maxDepth - 2

/-- The value of each member, with the last of several with one key. -/
def fieldsOfTree? : Tree → Option (List (String × Json))
  | .object members => (Tree.memberValues? mapRoom members).map Ordered.ofList
  | _ => none

def stringOfTree? : Tree → Option String
  | .string pieces => Piece.string? pieces
  | _ => none

def textsOfTree? : Tree → Option (List (String × String))
  | .object members =>
    (members.mapM fun (key, value) => do
      let key ← Piece.string? key
      let value ← stringOfTree? value
      return (key, value)).map Ordered.ofList
  | _ => none

def messagesOfTree? : Tree → Option (List (String × List (String × String)))
  | .object members =>
    (members.mapM fun (key, value) => do
      let key ← Piece.string? key
      let value ← textsOfTree? value
      return (key, value)).map Ordered.ofList
  | _ => none

/-- A code, or null for none. Numbers with a fraction or an exponent are no codes. -/
def codeOfTree? : Tree → Option (Option Code)
  | .null => some none
  | .number literal =>
    match literal.value? with
    | some (.integer n) => (codeOfInt? n).map some
    | _ => none
  | _ => none

/-- A text, or null for none. -/
def textOfTree? : Tree → Option (Option String)
  | .null => some none
  | value => (stringOfTree? value).map some

def memberNames : List String :=
  ["fields", "messages", "info", "failed_code", "succeed_code", "failed_info", "succeed_info"]

def setMember? (document : Document) (name : String) (value : Tree) : Option Document :=
  match name with
  | "fields" => (fieldsOfTree? value).map fun fields => { document with fields }
  | "messages" => (messagesOfTree? value).map fun messages => { document with messages }
  | "info" => (textsOfTree? value).map fun info => { document with info }
  | "failed_code" => (codeOfTree? value).map fun failedCode => { document with failedCode }
  | "succeed_code" => (codeOfTree? value).map fun succeedCode => { document with succeedCode }
  | "failed_info" => (textOfTree? value).map fun failedInfo => { document with failedInfo }
  | "succeed_info" => (textOfTree? value).map fun succeedInfo => { document with succeedInfo }
  | _ => some document

def setMembers? (seen : List String) (document : Document) :
    List (List Piece × Tree) → Option Document
  | [] => some document
  | (key, value) :: rest =>
    match Piece.string? key with
    | none => none
    | some name =>
      if memberNames.contains name ∧ seen.contains name then none
      else
        (setMember? document name value).bind fun document =>
          setMembers? (name :: seen) document rest

/-- Sets the members that an array lists. -/
def setItems? (document : Document) : List String → List Tree → Option Document
  | _, [] => some document
  | [], _ :: _ => none
  | name :: names, value :: rest =>
    (setMember? document name value).bind fun document => setItems? document names rest

def ofTree? : Tree → Option Document
  | .object members => setMembers? [] empty members
  | .array items => setItems? empty memberNames items
  | _ => none

def readJson? (text : String) : Option Document := (Tree.read? text.toList).bind ofTree?

end FieldRules.Document
