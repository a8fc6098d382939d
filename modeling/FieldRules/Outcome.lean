import FieldRules.Ordered
import FieldRules.Rule.Args

/-!
What a run has come to: a status, a code and the messages of failures. While the rules of the
fields are applied an outcome only gets worse; the check of the whole input after them may do
anything that `Action` allows.
-/

namespace FieldRules

/-- Result codes are integers of 32 bits. -/
abbrev Code := Int32

/-- Messages by field and rule, in the order in which fields and rules first failed. -/
abbrev Messages := List (String × List (String × String))

structure Outcome where
  status : Bool
  code : Code
  messages : Messages
deriving DecidableEq

/-- What a check of the whole input may do. -/
inductive Action where
  | succeed (code : Code)
  | failWith (code : Code)
  | setCode (code : Code)
  | addMessage (field rule text : String)
  /-- Registers a rule for later runs. -/
  | register (name : String) (factory : Factory)

namespace Outcome

def start (code : Code) : Outcome := ⟨true, code, []⟩

def addMessage (outcome : Outcome) (field rule text : String) : Outcome :=
  { outcome with messages := Ordered.putInner field rule text outcome.messages }

def recordFailure (outcome : Outcome) (field rule text : String) : Outcome :=
  { outcome.addMessage field rule text with status := false }

def apply (outcome : Outcome) : Action → Outcome
  | .succeed code => { outcome with status := true, code }
  | .failWith code => { outcome with status := false, code }
  | .setCode code => { outcome with code }
  | .addMessage field rule text => outcome.addMessage field rule text
  | .register _ _ => outcome

def applyAll (outcome : Outcome) (actions : List Action) : Outcome := actions.foldl apply outcome

/-- The outcome before the first action and after each one. -/
def history (outcome : Outcome) : List Action → List Outcome
  | [] => [outcome]
  | action :: rest => outcome :: history (outcome.apply action) rest

end Outcome

def Action.registration? : Action → Option (String × Factory)
  | .register name factory => some (name, factory)
  | _ => none

end FieldRules
