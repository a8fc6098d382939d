import FieldRules.Journal.Record

/-!
The logging configuration. It is read from the environment when it is first needed, and only once;
after that the level and the debug flag change by explicit settings alone. Every operation first
makes sure that the configuration has been read.
-/

namespace FieldRules

structure LogEnv where
  debug : Option String
  level : Option String
  format : Option String
  timestamps : Option String

structure LogSettings where
  debug : Bool
  level : Level
  format : LogFormat
  timestamps : Bool
deriving DecidableEq, Repr

namespace LogSettings

def default : LogSettings := ⟨false, .info, .json, true⟩

/-- A switch: on for `1` and for `true` in any case, off for every other text. -/
def isOn (text : String) : Bool := text == "1" || Text.lowerAscii text == "true"

/-- The configuration that an environment gives. A level that is not named is that of debugging if
the switch for it is on. -/
def ofEnv (env : LogEnv) : LogSettings :=
  let debug := (env.debug.map isOn).getD default.debug
  { debug
    level := (env.level.bind Level.parse?).getD (if debug then .debug else default.level)
    format := (env.format.bind LogFormat.parse?).getD default.format
    timestamps := (env.timestamps.map isOn).getD default.timestamps }

end LogSettings

/-- The state of logging: the environment, the configuration once it has been read, and the debug
flag and level in force. -/
structure LogState where
  env : LogEnv
  settings : Option LogSettings
  debug : Bool
  level : Level

namespace LogState

def start (env : LogEnv) : LogState := ⟨env, none, false, .info⟩

/-- Reads the configuration if it has not been read. -/
def init (state : LogState) : LogState :=
  match state.settings with
  | some _ => state
  | none =>
    let settings := LogSettings.ofEnv state.env
    { state with settings := some settings, debug := settings.debug, level := settings.level }

def config (state : LogState) : LogSettings := state.settings.getD (LogSettings.ofEnv state.env)

def currentLevel (state : LogState) : Level := state.init.level

def isDebugEnabled (state : LogState) : Bool := state.init.debug

def isLevelEnabled (state : LogState) (level : Level) : Bool :=
  level != .off && level.atLeast state.init.level

def setLevel (state : LogState) (level : Level) : LogState := { state.init with level }

/-- Sets the debug flag. Setting it lowers the level to that of debugging. -/
def setDebug (state : LogState) (debug : Bool) : LogState :=
  let state := { state.init with debug }
  if debug ∧ Level.debug.rank < state.level.rank then { state with level := .debug } else state

/-- Whether a record is written. Those for debugging are also written whenever the debug flag is
set. -/
def admits (state : LogState) (level : Level) : Bool :=
  match level with
  | .debug => state.isDebugEnabled || state.isLevelEnabled .debug
  | .off => false
  | level => state.isLevelEnabled level

def written (state : LogState) (records : List Record) : List Record :=
  records.filter fun record => state.admits record.level

end LogState

end FieldRules
