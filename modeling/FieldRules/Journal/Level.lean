import FieldRules.Text.Blank

/-!
Severities of log records and formats of log lines, with the names by which the environment gives
them. Names are read without regard to blanks around them and to case. No character outside ASCII
has a lower case that occurs in one of the names, so the case of ASCII letters is all that counts.
-/

namespace FieldRules

/-- The severity of a record, or `off` for none at all. -/
inductive Level where
  | trace
  | debug
  | info
  | warn
  | error
  | off
deriving DecidableEq, Repr

namespace Level

/-- All levels, the least severe first. -/
def all : List Level := [.trace, .debug, .info, .warn, .error, .off]

def rank : Level → Nat
  | .trace => 0
  | .debug => 1
  | .info => 2
  | .warn => 3
  | .error => 4
  | .off => 5

def atLeast (level minimum : Level) : Bool := decide (minimum.rank ≤ level.rank)

def name : Level → String
  | .trace => "TRACE"
  | .debug => "DEBUG"
  | .info => "INFO"
  | .warn => "WARN"
  | .error => "ERROR"
  | .off => "OFF"

def parse? (text : String) : Option Level :=
  match Text.lowerAscii (Text.trim text) with
  | "trace" => some .trace
  | "debug" => some .debug
  | "info" => some .info
  | "warn" => some .warn
  | "warning" => some .warn
  | "error" => some .error
  | "off" => some .off
  | "none" => some .off
  | _ => none

end Level

/-- How records become lines. `facade` hands them to the logger of the host. -/
inductive LogFormat where
  | pretty
  | compact
  | json
  | facade
deriving DecidableEq, Repr

namespace LogFormat

def name : LogFormat → String
  | .pretty => "Pretty"
  | .compact => "Compact"
  | .json => "Json"
  | .facade => "Facade"

def parse? (text : String) : Option LogFormat :=
  match Text.lowerAscii (Text.trim text) with
  | "pretty" => some .pretty
  | "compact" => some .compact
  | "json" => some .json
  | "facade" => some .facade
  | "log" => some .facade
  | _ => none

end LogFormat

end FieldRules
