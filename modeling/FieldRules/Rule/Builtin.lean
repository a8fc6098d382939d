import FieldRules.Number.Numeral
import FieldRules.Pattern.Formats
import FieldRules.Pattern.Reader
import FieldRules.Rule.Args
import FieldRules.Rule.Value

/-!
The rules that every registry knows. Evaluating one gives a verdict; a rule that cannot make sense
of its parameters or its value says why, and that reason takes the place of its message.
-/

namespace FieldRules

/-- The rules that need no registration. -/
inductive Builtin where
  | required
  | min
  | max
  | between
  | oneOf
  | noneOf
  | email
  | url
  | uuid
  | alpha
  | alphaNum
  | numeric
  | pattern
deriving DecidableEq, Repr

namespace Builtin

def all : List Builtin :=
  [.required, .min, .max, .between, .oneOf, .noneOf, .email, .url, .uuid, .alpha, .alphaNum,
    .numeric, .pattern]

def name : Builtin → String
  | .required => "required"
  | .min => "min"
  | .max => "max"
  | .between => "between"
  | .oneOf => "in"
  | .noneOf => "not_in"
  | .email => "email"
  | .url => "url"
  | .uuid => "uuid"
  | .alpha => "alpha"
  | .alphaNum => "alpha_num"
  | .numeric => "numeric"
  | .pattern => "regex"

def title : Builtin → String
  | .required => "Required"
  | .min => "Min"
  | .max => "Max"
  | .between => "Between"
  | .oneOf => "In"
  | .noneOf => "NotIn"
  | .email => "Email"
  | .url => "Url"
  | .uuid => "Uuid"
  | .alpha => "Alpha"
  | .alphaNum => "AlphaNum"
  | .numeric => "Numeric"
  | .pattern => "Regex"

/-- The rule of a name, which has to agree to the letter. -/
def ofName? (text : String) : Option Builtin := all.find? fun rule => rule.name == text

def position (rule : Builtin) : Nat := all.idxOf rule

def defaultMessage : Builtin → String
  | .required => "\x7bFIELD\x7d is required"
  | .min => "\x7bFIELD\x7d must be at least \x7b0\x7d"
  | .max => "\x7bFIELD\x7d must be at most \x7b0\x7d"
  | .between => "\x7bFIELD\x7d must be between \x7b0\x7d and \x7b1\x7d"
  | .oneOf => "\x7bFIELD\x7d must be one of: \x7bPARAMS\x7d"
  | .noneOf => "\x7bFIELD\x7d must not be one of: \x7bPARAMS\x7d"
  | .email => "\x7bFIELD\x7d must be a valid email"
  | .url => "\x7bFIELD\x7d must be a valid URL"
  | .uuid => "\x7bFIELD\x7d must be a valid UUID"
  | .alpha => "\x7bFIELD\x7d must contain only letters"
  | .alphaNum => "\x7bFIELD\x7d must contain only letters and numbers"
  | .numeric => "\x7bFIELD\x7d must contain only numbers"
  | .pattern => "\x7bFIELD\x7d does not match the required pattern"

end Builtin

inductive Misuse where
  /-- A parameter of the named rule is no finite number. -/
  | notNumeric (rule : String) (param : String)
  | noSize
  | notSingle
  | badPattern
deriving DecidableEq, Repr

def Misuse.template : Misuse → String
  | .notNumeric rule param =>
    "\x7bFIELD\x7d: rule '" ++ rule ++ "' expects a numeric parameter, got '" ++ param ++ "'"
  | .noSize => "\x7bFIELD\x7d has no measurable size"
  | .notSingle => "\x7bFIELD\x7d must be a single value"
  | .badPattern => "\x7bFIELD\x7d: rule 'regex' was given an invalid pattern"

inductive Verdict where
  | pass
  | fail
  | invalid (why : Misuse)
deriving DecidableEq, Repr

namespace Verdict

def ofBool (passed : Bool) : Verdict := if passed then .pass else .fail

def ofExcept : Except Misuse Bool → Verdict
  | .ok passed => ofBool passed
  | .error why => .invalid why

end Verdict

namespace Builtin

/-- A numeric parameter; a missing one reads as the empty text. -/
def numberParam (rule : Builtin) (param : Option String) : Except Misuse Binary64 :=
  let text := param.getD ""
  match Numeral.read? text.toList with
  | some limit => .ok limit
  | none => .error (.notNumeric rule.name text)

def measure (value : Json) : Except Misuse Binary64 :=
  match value.size? with
  | some size => .ok size
  | none => .error .noSize

/-- Compares the size of a value with the first parameter, which is looked at before the value. -/
def bound (rule : Builtin) (holds : Binary64 → Binary64 → Bool) (value : Json)
    (params : List String) : Except Misuse Bool := do
  let limit ← numberParam rule params[0]?
  let size ← measure value
  return holds size limit

/-- Compares the size of a value with the first two parameters. -/
def within (value : Json) (params : List String) : Except Misuse Bool := do
  let low ← numberParam .between params[0]?
  let high ← numberParam .between params[1]?
  let size ← measure value
  return low.le size && size.le high

/-- The text of a value that has to be single. -/
def singleText (value : Json) : Except Misuse String :=
  match value.scalarText? with
  | some text => .ok text
  | none => .error .notSingle

/-- Whether the text of a value is among the parameters, or is not. -/
def membership (wanted : Bool) (value : Json) (params : List String) : Except Misuse Bool := do
  let text ← singleText value
  return params.contains text == wanted

/-- Whether a pattern occurs in the text of a value. -/
def format (p : Pattern) (value : Json) : Except Misuse Bool := do
  let text ← singleText value
  return p.search text.toList

/-- The pattern that the parameters write together. -/
def patternSource (params : List String) : String := Text.join "," params

/-- Whether a compiled pattern, if there is one, occurs in the text of a value. The value is looked
at before the pattern. -/
def matchCompiled (compiled : Option Pattern) (value : Json) : Except Misuse Bool := do
  let text ← singleText value
  match compiled with
  | some p => return p.search text.toList
  | none => throw .badPattern

def evaluate (rule : Builtin) (value : Json) (params : List String) : Verdict :=
  match rule with
  | .required => .ofBool value.isTruthy
  | .min => .ofExcept (bound .min (fun size limit => limit.le size) value params)
  | .max => .ofExcept (bound .max (fun size limit => size.le limit) value params)
  | .between => .ofExcept (within value params)
  | .oneOf => .ofExcept (membership true value params)
  | .noneOf => .ofExcept (membership false value params)
  | .email => .ofExcept (format Pattern.email value)
  | .url => .ofExcept (format Pattern.url value)
  | .uuid => .ofExcept (format Pattern.uuid value)
  | .alpha => .ofExcept (format Pattern.alpha value)
  | .alphaNum => .ofExcept (format Pattern.alphaNum value)
  | .numeric => .ofExcept (format Pattern.numeric value)
  | .pattern => .ofExcept (matchCompiled (Pattern.read? (patternSource params)) value)

end Builtin

end FieldRules
