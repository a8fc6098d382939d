import FieldRules.Json.Tree
import FieldRules.Text.Blank
import FieldRules.Text.Split

/-!
Rule strings. A rule string is a list of segments between bars; a segment is a name and, after a
colon, parameters between commas. White space around every piece is dropped, and so are further
colons in a segment, whose pieces are put together. Nothing is escaped.

`RuleSpec.text` writes a spec back. The specs that reading gives are the ones that satisfy
`RuleSpec.Canonical`.
-/

namespace FieldRules

/-- A rule as declared for a field: its name and its parameters in order. -/
structure RuleSpec where
  name : String
  params : List String
deriving DecidableEq, Repr, Inhabited

namespace RuleSpec

/-- The spec of one segment. A segment without parameters has a single empty one. -/
def parseChars (segment : List Char) : RuleSpec :=
  let pieces := (Text.splitChars ':' segment).map Text.trimChars
  ⟨String.ofList (pieces.headD []),
    (Text.splitChars ',' (pieces.drop 1).flatten).map fun param =>
      String.ofList (Text.trimChars param)⟩

def parse (segment : String) : RuleSpec := parseChars segment.toList

/-- The specs of a rule string, one for each segment. -/
def parseAll (rules : String) : List RuleSpec :=
  (Text.splitChars '|' rules.toList).map parseChars

/-- The parameters, without the empty one that stands for none. -/
def meaningfulParams (spec : RuleSpec) : List String :=
  if spec.params = [""] then [] else spec.params

def text (spec : RuleSpec) : String :=
  if spec.meaningfulParams.isEmpty then spec.name
  else spec.name ++ ":" ++ Text.join "," spec.params

/-- A text that trimming leaves as it is. -/
def Trimmed (text : String) : Prop := Text.trim text = text

instance (text : String) : Decidable (Trimmed text) := by unfold Trimmed; infer_instance

/-- The specs that segments write: trimmed throughout, with at least one parameter and with no
delimiter of its own inside a name or a parameter. -/
def Canonical (spec : RuleSpec) : Prop :=
  Trimmed spec.name ∧ ':' ∉ spec.name.toList ∧ spec.params ≠ [] ∧
    ∀ param ∈ spec.params, Trimmed param ∧ ',' ∉ param.toList ∧ ':' ∉ param.toList

def tree (spec : RuleSpec) : Json.Tree :=
  .ofMembers [("name", .ofString spec.name), ("params", .array (spec.params.map .ofString))]

def stringOfTree? : Json.Tree → Option String
  | .string pieces => Json.Piece.string? pieces
  | _ => none

def stringsOfTree? : Json.Tree → Option (List String)
  | .array items => items.mapM stringOfTree?
  | _ => none

/-- The name and the parameters among the members of an object. Neither may be given twice, and
other members are skipped. -/
def ofMembers? (name : Option String) (params : Option (List String)) :
    List (List Json.Piece × Json.Tree) → Option RuleSpec
  | [] =>
    match name, params with
    | some name, some params => some ⟨name, params⟩
    | _, _ => none
  | (key, value) :: rest =>
    match Json.Piece.string? key with
    | none => none
    | some "name" =>
      if name.isSome then none
      else (stringOfTree? value).bind fun name => ofMembers? (some name) params rest
    | some "params" =>
      if params.isSome then none
      else (stringsOfTree? value).bind fun params => ofMembers? name (some params) rest
    | some _ => ofMembers? name params rest

/-- The spec of a JSON document: an object with the two members, or an array of both. -/
def ofTree? : Json.Tree → Option RuleSpec
  | .object members => ofMembers? none none members
  | .array [name, params] => do
    let name ← stringOfTree? name
    let params ← stringsOfTree? params
    return ⟨name, params⟩
  | _ => none

end RuleSpec

end FieldRules
