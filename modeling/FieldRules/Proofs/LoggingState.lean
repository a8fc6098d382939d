import Mathlib.Data.List.DropRight
import Mathlib.Data.List.Induction
import FieldRules.Journal.Call

/-! The state of logging after any calls. Every call begins by reading the configuration
if that has not been done, so it makes no difference when it is read, and a setting made
before it was asked for is not undone. From there on the level and the debug flag are
told by the last calls that set them, and these two tell which records are written. -/
namespace FieldRules

/-- A level, or that of debugging if the level is above it. -/
def Level.lowered (level : Level) : Level :=
  if Level.debug.rank < level.rank then .debug else level

theorem Level.lowered_lowered (level : Level) : level.lowered.lowered = level.lowered := by
  cases level <;> rfl

namespace LogCall

def level? : LogCall → Option Level
  | .setLevel level => some level
  | _ => none

def debug? : LogCall → Option Bool
  | .setDebug on => some on
  | _ => none

/-- The level set last, or else that of the environment. -/
def levelSet (env : LogEnv) (calls : List LogCall) : Level :=
  ((calls.filterMap level?).getLast?).getD (LogSettings.ofEnv env).level

def debugSet (env : LogEnv) (calls : List LogCall) : Bool :=
  ((calls.filterMap debug?).getLast?).getD (LogSettings.ofEnv env).debug

/-- Of what calls set the last one counts. -/
theorem lastSet_concat {α : Type} (set? : LogCall → Option α) (unset : α) (calls : List LogCall)
    (call : LogCall) :
    (((calls ++ [call]).filterMap set?).getLast?).getD unset =
      (set? call).getD (((calls.filterMap set?).getLast?).getD unset) := by
  rw [List.filterMap_append]
  cases sets : set? call <;> simp [sets]

def sinceLevel (calls : List LogCall) : List LogCall :=
  calls.rtakeWhile fun call => call.level?.isNone

/-- The level set last, lowered if the debug flag was set after it. -/
def levelInForce (env : LogEnv) (calls : List LogCall) : Level :=
  if .setDebug true ∈ sinceLevel calls then (levelSet env calls).lowered else levelSet env calls

end LogCall

/-- A list with further occurrences of an item put in anywhere. -/
inductive Padded {α : Type} (item : α) : List α → List α → Prop where
  | nil : Padded item [] []
  | keep (head : α) {items more : List α} :
      Padded item items more → Padded item (head :: items) (head :: more)
  | pad {items more : List α} : Padded item items more → Padded item items (item :: more)

namespace LogState

section Reading

variable (state : LogState)

theorem settings_init : state.init.settings = some state.config := by
  cases read : state.settings <;> simp [init, config, read]

/-- Once the configuration has been read, reading it again undoes nothing. -/
theorem init_of_read {settings : LogSettings} (read : state.settings = some settings) :
    state.init = state := by
  rw [init, read]

@[simp]
theorem init_init : state.init.init = state.init := init_of_read _ state.settings_init

@[simp]
theorem config_init : state.init.config = state.config := by
  rw [config, settings_init, Option.getD_some]

@[simp]
theorem currentLevel_init : state.init.currentLevel = state.currentLevel := by
  simp only [currentLevel, init_init]

@[simp]
theorem isDebugEnabled_init : state.init.isDebugEnabled = state.isDebugEnabled := by
  simp only [isDebugEnabled, init_init]

@[simp]
theorem isLevelEnabled_init (level : Level) :
    state.init.isLevelEnabled level = state.isLevelEnabled level := by
  simp only [isLevelEnabled, init_init]

@[simp]
theorem written_init (records : List Record) :
    state.init.written records = state.written records := by
  have same : ∀ level, state.init.admits level = state.admits level := by
    intro level
    cases level <;> simp only [admits, isDebugEnabled_init, isLevelEnabled_init]
  simp only [written, same]

theorem after_init (call : LogCall) : state.init.after call = state.after call := by
  cases call <;> simp only [after, init_init, setLevel, setDebug]

theorem observe_init (call : LogCall) : state.init.observe call = state.observe call := by
  cases call <;> simp [observe, value, recorded]

/-- Reading the configuration beforehand is not seen in any later call. -/
theorem trace_init (calls : List LogCall) : state.init.trace calls = state.trace calls := by
  cases calls with
  | nil => rfl
  | cons call rest => rw [trace, trace, observe_init, after_init]

/-- Calls of `init` anywhere in between leave all that is seen of the others. -/
theorem trace_padded {calls more : List LogCall} (padded : Padded .init calls more) :
    Padded ⟨.init, .nothing, []⟩ (state.trace calls) (state.trace more) := by
  induction padded generalizing state with
  | nil => exact .nil
  | keep head _ ih => exact .keep _ (ih (state.after head))
  | pad _ ih =>
    have later := ih state.init
    rw [trace_init] at later
    exact .pad later

end Reading

section Settings

variable {state : LogState}

theorem init_setLevel (level : Level) :
    (state.setLevel level).init = { state.init with level } :=
  init_of_read _ state.settings_init

theorem init_setDebug (on : Bool) :
    (state.setDebug on).init =
      { state.init with
        debug := on
        level := if on then state.currentLevel.lowered else state.currentLevel } := by
  have set : state.setDebug on =
      { state.init with
        debug := on
        level := if on then state.currentLevel.lowered else state.currentLevel } := by
    cases on with
    | false => rfl
    | true =>
      by_cases above : Level.debug.rank < state.init.level.rank <;>
        simp [setDebug, currentLevel, Level.lowered, above]
  rw [set]
  exact init_of_read _ state.settings_init

theorem config_after (call : LogCall) : (state.after call).config = state.config := by
  rw [← config_init, ← state.config_init]
  cases call with
  | setLevel level => rw [after, init_setLevel]; rfl
  | setDebug on => rw [after, init_setDebug]; rfl
  | _ => rw [after, init_init]

theorem isDebugEnabled_after (call : LogCall) :
    (state.after call).isDebugEnabled = call.debug?.getD state.isDebugEnabled := by
  cases call with
  | setLevel level => rw [after, isDebugEnabled, init_setLevel]; rfl
  | setDebug on => rw [after, isDebugEnabled, init_setDebug]; rfl
  | _ => exact state.isDebugEnabled_init

/-- Settings alone change the level in force, and taking the debug flag away does not. -/
theorem currentLevel_after (call : LogCall) :
    (state.after call).currentLevel =
      if call = .setDebug true then state.currentLevel.lowered
      else call.level?.getD state.currentLevel := by
  cases call with
  | setLevel level => rw [after, currentLevel, init_setLevel]; rfl
  | setDebug on =>
    rw [after, currentLevel, init_setDebug]
    cases on <;> rfl
  | _ => exact state.currentLevel_init

theorem run_concat (calls : List LogCall) (call : LogCall) :
    state.run (calls ++ [call]) = (state.run calls).after call :=
  List.foldl_append

theorem config_run (calls : List LogCall) : (state.run calls).config = state.config := by
  induction calls using List.reverseRecOn with
  | nil => rfl
  | append_singleton calls call ih => rw [run_concat, config_after, ih]

end Settings

section Histories

variable (env : LogEnv) (calls : List LogCall)

theorem isDebugEnabled_run :
    ((start env).run calls).isDebugEnabled = LogCall.debugSet env calls := by
  induction calls using List.reverseRecOn with
  | nil => rfl
  | append_singleton calls call ih =>
    rw [run_concat, isDebugEnabled_after, ih]
    exact (LogCall.lastSet_concat ..).symm

/-- How one more call changes the level that the calls up to it leave in force. -/
theorem levelInForce_concat (call : LogCall) :
    LogCall.levelInForce env (calls ++ [call]) =
      if call = .setDebug true then (LogCall.levelInForce env calls).lowered
      else call.level?.getD (LogCall.levelInForce env calls) := by
  have set : LogCall.levelSet env (calls ++ [call]) =
      call.level?.getD (LogCall.levelSet env calls) := LogCall.lastSet_concat ..
  rw [LogCall.levelInForce, LogCall.levelInForce, set]
  cases sets : call.level? with
  | some level =>
    -- nothing has followed the level set now, so it stands as it is
    have since : LogCall.sinceLevel (calls ++ [call]) = [] :=
      List.rtakeWhile_concat_neg _ _ _ (by simp [sets])
    have other : call ≠ .setDebug true := by
      rintro rfl
      contradiction
    simp [since, other]
  | none =>
    -- the call is one more since the level was set; lowering twice is lowering once
    have since : LogCall.sinceLevel (calls ++ [call]) = LogCall.sinceLevel calls ++ [call] :=
      List.rtakeWhile_concat_pos _ _ _ (by simp [sets])
    simp only [since, List.mem_append, List.mem_singleton, Option.getD_none]
    by_cases debugging : call = .setDebug true
    · subst debugging
      rw [if_pos (.inr rfl), if_pos rfl]
      split
      · rw [Level.lowered_lowered]
      · rfl
    · rw [if_neg debugging]
      simp only [Ne.symm debugging, or_false]

theorem currentLevel_run :
    ((start env).run calls).currentLevel = LogCall.levelInForce env calls := by
  induction calls using List.reverseRecOn with
  | nil => rfl
  | append_singleton calls call ih => rw [run_concat, currentLevel_after, levelInForce_concat, ih]

/-- It is not seen when the configuration is read, whatever is called before that: calls of
`init` put in anywhere change nothing that other calls give back or write. The level in
force is the one set last, or else that of the environment, lowered if the debug flag was
set since then; taking the flag away does not change it. The flag is the one set last, or
else that of the environment. -/
theorem reading_unseen :
    (∀ more, Padded .init calls more →
      Padded ⟨.init, .nothing, []⟩ ((start env).trace calls) ((start env).trace more)) ∧
    ((start env).run calls).currentLevel = LogCall.levelInForce env calls ∧
    (((start env).run calls).after (.setDebug false)).currentLevel =
      ((start env).run calls).currentLevel ∧
    ((start env).run calls).isDebugEnabled = LogCall.debugSet env calls ∧
    ∀ level, ((start env).run calls).isLevelEnabled level = true ↔
      level ≠ .off ∧ ((start env).run calls).currentLevel.rank ≤ level.rank := by
  refine ⟨fun more padded => trace_padded _ padded, currentLevel_run env calls,
    currentLevel_after _, isDebugEnabled_run env calls, ?_⟩
  intro level
  simp [isLevelEnabled, Level.atLeast, currentLevel]

/-- A setting made before anything else has been called stands: the level of the environment
does not come back when the configuration is asked for. -/
example :
    let env : LogEnv := ⟨some "1", some "trace", none, none⟩
    ((start env).trace [.setLevel .warn, .config, .currentLevel, .setDebug true,
        .currentLevel]).map ObservedCall.value =
      [.nothing, .settings ⟨true, .trace, .json, true⟩, .level .warn, .nothing, .level .debug] := by
  decide +kernel

/-- At the level `off` nothing is let through but what is for debugging, and that by the
debug flag alone. -/
theorem written_off {state : LogState} (off : state.currentLevel = .off) (record : Record) :
    state.written [record] =
      if record.level = .debug ∧ state.isDebugEnabled = true then [record] else [] := by
  have closed : ∀ level, state.isLevelEnabled level = false := by
    intro level
    rw [isLevelEnabled, ← currentLevel, off]
    cases level <;> rfl
  obtain ⟨level, target, message⟩ := record
  cases level <;> simp [written, admits, closed, List.filter_cons]

/-- After any calls that leave the level at `off`, a record is written just if it is for
debugging and the debug flag is set. So nothing is written at all just if the flag set
last, or else that of the environment, is not set. -/
theorem off_leaves_debugging (off : ((start env).run calls).currentLevel = .off) :
    (∀ record, ((start env).run calls).recorded (.emit record) =
      if record.level = .debug ∧ LogCall.debugSet env calls = true then
        [(record, LogSettings.ofEnv env)]
      else []) ∧
    ((∀ record, ((start env).run calls).recorded (.emit record) = []) ↔
      LogCall.debugSet env calls = false) := by
  have recorded : ∀ record, ((start env).run calls).recorded (.emit record) =
      if record.level = .debug ∧ LogCall.debugSet env calls = true then
        [(record, LogSettings.ofEnv env)]
      else [] := by
    intro record
    have config : ((start env).run calls).config = LogSettings.ofEnv env := config_run calls
    rw [LogState.recorded, written_off off, isDebugEnabled_run, config]
    split <;> rfl
  refine ⟨recorded, ?_, ?_⟩
  · intro silent
    have debugging := silent ⟨.debug, "", ""⟩
    rw [recorded] at debugging
    simpa using debugging
  · intro unset record
    rw [recorded, unset]
    simp

theorem off_leaves_debugging_unset :
    let state := (start ⟨some "1", some "off", none, none⟩).run [.setDebug false, .init]
    state.currentLevel = .off ∧ ∀ record, state.recorded (.emit record) = [] :=
  ⟨by decide +kernel, (off_leaves_debugging ⟨some "1", some "off", none, none⟩
    [.setDebug false, .init] (by decide +kernel)).2.mpr (by decide +kernel)⟩

/-- With the debug flag set, turning the level off last does not keep a record from being
written. -/
theorem debugging_recorded_at_off :
    let state := (start ⟨none, none, none, none⟩).run [.setDebug true, .setLevel .off]
    state.currentLevel = .off ∧
      state.recorded (.emit ⟨.debug, "app", "late"⟩) =
        [(⟨.debug, "app", "late"⟩, LogSettings.default)] ∧
      ¬ ∀ (env : LogEnv) (calls : List LogCall) (record : Record),
        ((start env).run calls).currentLevel = .off →
          ((start env).run calls).recorded (.emit record) = [] := by
  refine ⟨by decide +kernel, by decide +kernel, fun silent => ?_⟩
  have none := silent ⟨none, none, none, none⟩ [.setDebug true, .setLevel .off]
    ⟨.debug, "app", "late"⟩ (by decide +kernel)
  exact absurd none (by decide +kernel)

end Histories

end LogState

end FieldRules
