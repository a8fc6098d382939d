import FieldRules.Journal.Call
import FieldRules.Run

/-!
What the parts of a process share: the logging state, the rules registered for everyone, and the
records written so far. Each operation gives the session after it. Rules are looked up in a
snapshot, taken when a run begins, so registrations count for later runs only.
-/

namespace FieldRules

/-- The shared state of a process, with the records written since it started. -/
structure Session where
  log : LogState
  registry : Registry
  written : List Record

namespace Session

def start (env : LogEnv) : Session := ⟨LogState.start env, Registry.empty, []⟩

def call (session : Session) (call : LogCall) : Session :=
  { session with
    log := session.log.after call
    written := session.written ++ (session.log.recorded call).map Prod.fst }

/-- Writes the records that the logging state lets through. -/
def write (session : Session) (records : List Record) : Session :=
  if records.isEmpty then session
  else
    { session with
      log := session.log.init
      written := session.written ++ session.log.written records }

def writeAlways (session : Session) (record : Record) : Session :=
  { session with log := session.log.init, written := session.written ++ [record] }

def register (session : Session) (name : String) (factory : Factory) : Session :=
  { session.write [Run.registrationRecord name] with
    registry := session.registry.register name factory }

/-- Runs a policy with a given registry, or else with a snapshot of the shared one. The rules that
the check registers go into the shared one. -/
def validate (session : Session) (registry : Option Registry) (policy : Policy) (source : Source)
    (absent : Json) : Except ConfigError Report × Session :=
  let outcome := run (registry.getD session.registry) policy source absent
  let after := session.write outcome.records
  (outcome.result,
    { after with
      registry := outcome.registrations.foldl
        (fun shared (name, factory) => shared.register name factory) after.registry })

end Session

end FieldRules
