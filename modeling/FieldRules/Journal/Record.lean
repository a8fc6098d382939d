import FieldRules.Journal.Level
import FieldRules.Json.Tree

/-!
Log records and the text they become. The texts of `pretty` and `compact` take the target and the
message as they are, line feeds included; `json` escapes them.
-/

namespace FieldRules

/-- A log record: its severity, the part of the program it comes from, and its message. -/
structure Record where
  level : Level
  target : String
  message : String
deriving DecidableEq, Repr

namespace Record

def engineTarget : String := "rulecheck_validation::engine"

def rulesTarget : String := "rulecheck_validation::rules"

def loaderTarget : String := "rulecheck_validation::loader"

/-- A text followed by blanks up to a width. -/
def padded (width : Nat) (text : String) : String :=
  text ++ String.ofList (List.replicate (width - text.length) ' ')

/-- What becomes of a record: a text with the line feed that ends it, or a record for the logger of
the host. -/
inductive Emission where
  | text (text : String)
  | handed (record : Record)
  | nothing
deriving DecidableEq, Repr

/-- A record in a format. A time is written in front where there is one; there is nothing to hand to
the host for the level `off`. -/
def emit (record : Record) (format : LogFormat) (time : Option String) (jsonTime : String) :
    Emission :=
  let stamp := match time with
    | some time => time ++ " "
    | none => ""
  match format with
  | .pretty =>
    .text (stamp ++ padded 5 record.level.name ++ " [" ++ record.target ++ "] " ++
      record.message ++ "\n")
  | .compact =>
    .text (stamp ++ String.ofList (record.level.name.toList.take 1) ++ " " ++ record.target ++
      ": " ++ record.message ++ "\n")
  | .json =>
    .text ((Json.Tree.ofMembers [("timestamp", .ofString jsonTime),
      ("level", .ofString record.level.name), ("target", .ofString record.target),
      ("message", .ofString record.message)]).text ++ "\n")
  | .facade => if record.level = .off then .nothing else .handed record

end Record

end FieldRules
