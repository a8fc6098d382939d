import FieldRules.ConfigError
import FieldRules.Ordered
import FieldRules.Rule.Check
import FieldRules.Schema
import FieldRules.Text.Quoted

/-!
Rules by name. The built-in rules are always there; a registered rule is found first, so
registering a built-in's name replaces it. Names have to agree to the letter.
-/

namespace FieldRules

/-- What a name stands for. -/
inductive RuleKind where
  | builtin (rule : Builtin)
  | custom (factory : Factory)

namespace RuleKind

/-- The rule applied to its arguments. -/
def bind : RuleKind → Factory
  | .builtin rule => rule.factory
  | .custom factory => factory

def describe : RuleKind → String
  | .builtin rule => "Builtin(" ++ rule.title ++ ")"
  | .custom _ => "Custom(..)"

end RuleKind

structure Registry where
  custom : List (String × Factory)

namespace Registry

def empty : Registry := ⟨[]⟩

/-- Registers a rule; the latest under a name counts. -/
def register (registry : Registry) (name : String) (factory : Factory) : Registry :=
  ⟨Ordered.put name factory registry.custom⟩

def ofRegistrations (registrations : List (String × Factory)) : Registry :=
  registrations.foldl (fun registry (name, factory) => registry.register name factory) empty

def resolve? (registry : Registry) (name : String) : Option RuleKind :=
  match Ordered.get? name registry.custom with
  | some factory => some (.custom factory)
  | none => (Builtin.ofName? name).map .builtin

def contains (registry : Registry) (name : String) : Bool :=
  Ordered.has name registry.custom || (Builtin.ofName? name).isSome

/-- Puts a name into its place among names in increasing order, where it stands once. -/
def insertName (name : String) : List String → List String
  | [] => [name]
  | other :: rest =>
    if name < other then name :: other :: rest
    else if name = other then other :: rest
    else other :: insertName name rest

/-- All names that resolve, in increasing order. -/
def names (registry : Registry) : List String :=
  (Builtin.all.map Builtin.name ++ registry.custom.map Prod.fst).foldl
    (fun sorted name => insertName name sorted) []

/-- The rule of a spec; a field has no business with a name that does not resolve. -/
def lookup (registry : Registry) (field : String) (spec : RuleSpec) :
    Except ConfigError RuleKind :=
  match registry.resolve? spec.name with
  | some kind => .ok kind
  | none => .error (.unknownRule field spec.name)

def verifyRules (registry : Registry) (field : String) : List RuleSpec → Except ConfigError Unit
  | [] => .ok ()
  | spec :: rest =>
    match registry.lookup field spec with
    | .ok _ => verifyRules registry field rest
    | .error error => .error error

def verifyFields (registry : Registry) : List FieldDecl → Except ConfigError Unit
  | [] => .ok ()
  | field :: rest =>
    match registry.verifyRules field.name field.rules with
    | .ok _ => verifyFields registry rest
    | .error error => .error error

def verify (registry : Registry) (schema : Schema) : Except ConfigError Unit :=
  registry.verifyFields schema.fields

def describe (registry : Registry) : String :=
  "RuleRegistry \x7b rules: [" ++
    ", ".intercalate (registry.names.map Text.quoted) ++ "] \x7d"

end Registry

end FieldRules
