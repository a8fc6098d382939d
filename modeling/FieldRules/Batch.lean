import FieldRules.Run

/-!
Many inputs validated at the same time. Each input has its own run; the reports are put into slots
as the runs end, in whatever order that is, and the first error to arrive ends the batch.
-/

namespace FieldRules.Batch

/-- A run that has ended: the place of its input and what came of it. -/
abbrev Completion := Nat × Except ConfigError Report

/-- Puts reports into their slots as they arrive, and gives the reports in the order of the slots
when no run is left. -/
def collectInto : List (Option Report) → List Completion → Except ConfigError (List Report)
  | slots, [] => .ok (slots.filterMap id)
  | _, (_, .error error) :: _ => .error error
  | slots, (place, .ok report) :: rest => collectInto (slots.set place (some report)) rest

def collect (count : Nat) (completions : List Completion) : Except ConfigError (List Report) :=
  collectInto (List.replicate count none) completions

def completions (registry : Registry) (policy : Policy) (inputs : List Json) : List Completion :=
  inputs.zipIdx.map fun (input, place) =>
    (place, validate registry policy (Source.ofJson input) .null)

/-- Validates inputs whose runs end in the order of the inputs. -/
def validateAll (registry : Registry) (policy : Policy) (inputs : List Json) :
    Except ConfigError (List Report) :=
  collect inputs.length (completions registry policy inputs)

end FieldRules.Batch
