/-!
Why a run or the loading of a definition is given up. A value that fails a rule is no such reason;
that is part of a report.
-/

namespace FieldRules

/-- A broken configuration or unusable input. The text of a case says what is wrong. -/
inductive ConfigError where
  | unknownRule (field rule : String)
  | load (text : String)
  | parse (text : String)
  | invalidInput (text : String)
  | taskFailed (text : String)
  | io (text : String)
deriving DecidableEq, Repr

def ConfigError.message : ConfigError → String
  | .unknownRule field rule =>
    "Unknown rule '" ++ rule ++ "' declared for field '" ++ field ++ "'"
  | .load text => "Failed to load definition: " ++ text
  | .parse text => "Failed to parse definition: " ++ text
  | .invalidInput text => "Invalid input: " ++ text
  | .taskFailed text => "Validation task failed: " ++ text
  | .io text => "IO error: " ++ text

end FieldRules
