import FieldRules.Ordered
import FieldRules.Rule.Spec

/-!
The declared fields of a definition in order, and the plan of a run: each field with its value and
its rules. A field is declared once; declaring it again replaces its rules and keeps its place.
-/

namespace FieldRules

/-- Where values come from: the value of a field, if there is one. -/
abbrev Source := String → Option Json

/-- The fields of an object; other values have none. -/
def Source.ofJson : Json → Source
  | .object members => Json.member? members
  | _ => fun _ => none

/-- A declared field: its rule string and the rules read from it. -/
structure FieldDecl where
  name : String
  source : String
  rules : List RuleSpec
deriving DecidableEq, Repr

/-- The field that a rule string declares. A blank string declares no rules. -/
def FieldDecl.ofSource (name source : String) : FieldDecl :=
  ⟨name, source, if Text.trim source = "" then [] else RuleSpec.parseAll source⟩

/-- A field's value and rules for one run. -/
structure FieldPlan where
  field : String
  value : Json
  rules : List RuleSpec

structure Schema where
  fields : List FieldDecl
deriving DecidableEq, Repr

namespace Schema

def empty : Schema := ⟨[]⟩

/-- Puts a field in the place of the one with its name, or at the end. -/
def place (decl : FieldDecl) : List FieldDecl → List FieldDecl
  | [] => [decl]
  | other :: rest => if other.name = decl.name then decl :: rest else other :: place decl rest

def declare (schema : Schema) (name source : String) : Schema :=
  ⟨place (FieldDecl.ofSource name source) schema.fields⟩

def ofDeclarations (declarations : List (String × String)) : Schema :=
  declarations.foldl (fun schema (name, source) => schema.declare name source) empty

/-- Names of attributes that declare nothing start with two underscores. -/
def isReserved (name : String) : Bool := ['_', '_'].isPrefixOf name.toList

def isDeclaration (name : String) : Json → Bool
  | .string _ => !isReserved name
  | _ => false

def declareAttribute (schema : Schema) (name : String) (value : Json) : Schema :=
  match value with
  | .string source => if isReserved name then schema else schema.declare name source
  | _ => schema

def discover (attributes : List (String × Json)) : Schema :=
  attributes.foldl (fun schema (name, value) => schema.declareAttribute name value) empty

def get? (schema : Schema) (name : String) : Option FieldDecl :=
  schema.fields.find? fun field => field.name == name

/-- The map from the name of each field to its rule string. -/
def declarations (schema : Schema) : List (String × String) :=
  Ordered.ofList (schema.fields.map fun field => (field.name, field.source))

/-- Each field with its value, or the given one where it has none, and its rules. -/
def plan (schema : Schema) (source : Source) (absent : Json) : List FieldPlan :=
  schema.fields.map fun field => ⟨field.name, (source field.name).getD absent, field.rules⟩

end Schema

end FieldRules
