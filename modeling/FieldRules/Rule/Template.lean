import FieldRules.Text.Replace
import FieldRules.Text.Split

/-!
Message templates. `Template.render` replaces the placeholders one kind after the other: first the
field, then the parameters together, then each parameter by its index, every time in the text that
the replacements before have given. `Template.Part` has the simultaneous reading, in which a
placeholder is a part of the template and what stands for it is never looked at again; the two
agree on texts without braces.
-/

namespace FieldRules.Template

/-- A placeholder: a name in braces. -/
def placeholder (name : String) : String := "\x7b" ++ name ++ "\x7d"

/-- Replaces the indices from `index` on by parameters. -/
def renderParams (index : Nat) (template : String) : List String → String
  | [] => template
  | param :: rest =>
    renderParams (index + 1) (Text.replace (placeholder (toString index)) param template) rest

/-- A template with its placeholders replaced. Unknown placeholders stay. -/
def render (field : String) (params : List String) (template : String) : String :=
  let named := Text.replace (placeholder "FIELD") field template
  let listed := Text.replace (placeholder "PARAMS") (Text.join ", " params) named
  renderParams 0 listed params

/-- A part of a template: literal text, or a placeholder by its name. -/
inductive Part where
  | literal (text : String)
  | group (name : String)
deriving DecidableEq, Repr

namespace Part

def source : Part → String
  | .literal text => text
  | .group name => placeholder name

/-- What a placeholder stands for: the field, all parameters, or the parameter with an index
written without leading zeros. -/
def value? (field : String) (params : List String) (name : String) : Option String :=
  if name = "FIELD" then some field
  else if name = "PARAMS" then some (Text.join ", " params)
  else
    ((List.range params.length).find? fun index => toString index == name).bind fun index =>
      params[index]?

def fill (field : String) (params : List String) : Part → String
  | .literal text => text
  | .group name => (value? field params name).getD (placeholder name)

end Part

def sourceOf (parts : List Part) : String := String.join (parts.map Part.source)

/-- All placeholders replaced at once. -/
def fillAll (field : String) (params : List String) (parts : List Part) : String :=
  String.join (parts.map (Part.fill field params))

end FieldRules.Template
