import FieldRules.Journal.State

/-!
Calls on logging, made one after the other by any part of a program. A call gives a value back,
changes what is let through from there on, or writes a record, which becomes a line by the
settings in force.
-/

namespace FieldRules

inductive LogCall where
  | init
  | config
  | currentLevel
  | isDebugEnabled
  | isLevelEnabled (level : Level)
  | setLevel (level : Level)
  | setDebug (on : Bool)
  /-- Logs a record if its level is let through; nothing is logged at the level `off`. -/
  | emit (record : Record)
deriving DecidableEq, Repr

inductive LogValue where
  | nothing
  | settings (settings : LogSettings)
  | level (level : Level)
  | flag (on : Bool)
deriving DecidableEq, Repr

/-- All that can be seen of a call: what it gives back, and what it writes. -/
structure ObservedCall where
  call : LogCall
  value : LogValue
  written : List (Record × LogSettings)
deriving DecidableEq, Repr

namespace LogState

/-- The state after a call. A call that sets nothing reads the configuration all the same. -/
def after (state : LogState) : LogCall → LogState
  | .setLevel level => state.setLevel level
  | .setDebug on => state.setDebug on
  | .init | .config | .currentLevel | .isDebugEnabled | .isLevelEnabled _ | .emit _ => state.init

def value (state : LogState) : LogCall → LogValue
  | .config => .settings state.config
  | .currentLevel => .level state.currentLevel
  | .isDebugEnabled => .flag state.isDebugEnabled
  | .isLevelEnabled level => .flag (state.isLevelEnabled level)
  | .init | .setLevel _ | .setDebug _ | .emit _ => .nothing

/-- The records that a call writes, each with the settings by which it becomes a line. -/
def recorded (state : LogState) : LogCall → List (Record × LogSettings)
  | .emit record => (state.written [record]).map fun record => (record, state.config)
  | _ => []

def run (state : LogState) (calls : List LogCall) : LogState := calls.foldl after state

def observe (state : LogState) (call : LogCall) : ObservedCall :=
  ⟨call, state.value call, state.recorded call⟩

def trace (state : LogState) : List LogCall → List ObservedCall
  | [] => []
  | call :: rest => state.observe call :: trace (state.after call) rest

end LogState

end FieldRules
