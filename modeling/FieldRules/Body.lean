import FieldRules.Json.Reader
import FieldRules.Run

/-!
Request bodies: bytes that hold a JSON object, whose members are the input of a run.
-/

namespace FieldRules.Body

/-- The members of the object that bytes hold. -/
def parse (bytes : ByteArray) : Except ConfigError (List (String × Json)) :=
  match (String.fromUTF8? bytes).bind Json.read? with
  | some (.object members) => .ok members
  | some value => .error (.invalidInput ("expected a JSON object, got " ++ value.kindName))
  | none => .error (.invalidInput "Invalid JSON: the body is no JSON document")

def validate (registry : Registry) (policy : Policy) (bytes : ByteArray) :
    Except ConfigError Report :=
  match parse bytes with
  | .error error => .error error
  | .ok members => FieldRules.validate registry policy (Json.member? members) .null

end FieldRules.Body
