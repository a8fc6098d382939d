import FieldRules.Rule.PatternCache
import FieldRules.Proofs.Ordered

/-! Evaluations of the pattern rule that share a cache, their look-ups and insertions
taken in any order. An entry is the compilation of its own source whoever puts it in,
so a look-up that finds one and a miss that compiles anew come to the same verdict,
and emptying the cache between the two loses nothing. -/
namespace FieldRules

/-- What the pattern rule says of a value, told from the text of the value and the
compilation of the parameters put together. -/
def Verdict.ofPattern (value : Json) (params : List String) : Verdict :=
  match value.scalarText?, Pattern.read? (Text.join "," params) with
  | none, _ => .invalid .notSingle
  | some _, none => .invalid .badPattern
  | some text, some p => .ofBool (p.search text.toList)

theorem Json.scalarText?_eq_none_iff (value : Json) :
    value.scalarText? = none ↔
      (∃ items, value = .array items) ∨ ∃ members, value = .object members := by
  cases value <;> simp [scalarText?, numberText?]

theorem Verdict.ofBool_ne_invalid (passed : Bool) (why : Misuse) : ofBool passed ≠ .invalid why := by
  cases passed <;> simp [ofBool]

theorem Verdict.ofBool_pass_iff {passed : Bool} : ofBool passed = .pass ↔ passed = true := by
  cases passed <;> simp [ofBool]

theorem Verdict.ofPattern_notSingle_iff (value : Json) (params : List String) :
    ofPattern value params = .invalid .notSingle ↔ value.scalarText? = none := by
  rw [ofPattern]
  split <;> simp_all [ofBool_ne_invalid]

theorem Verdict.ofPattern_badPattern_iff (value : Json) (params : List String) :
    ofPattern value params = .invalid .badPattern ↔
      value.scalarText?.isSome = true ∧ Pattern.read? (Text.join "," params) = none := by
  rw [ofPattern]
  split <;> simp_all [ofBool_ne_invalid]

theorem Builtin.evaluate_pattern (value : Json) (params : List String) :
    Builtin.evaluate .pattern value params = Verdict.ofPattern value params := by
  rw [evaluate, matchCompiled, singleText, patternSource, Verdict.ofPattern]
  cases value.scalarText? with
  | none => rfl
  | some text => cases Pattern.read? (Text.join "," params) <;> rfl

namespace PatternCache

/-- Every entry is the compilation of its own source, and the entries are not too many. -/
structure Sound (cache : PatternCache) : Prop where
  own : ∀ source compiled, cache.find? source = some compiled → compiled = Pattern.read? source
  bounded : cache.entries.length ≤ capacity

theorem sound_empty : empty.Sound := ⟨by simp [find?, empty, Ordered.get?], by simp [empty]⟩

/-- Putting in what a source compiles to keeps a cache sound, full or not. -/
theorem Sound.insert {cache : PatternCache} (sound : cache.Sound) (source : String) :
    (cache.insert source (Pattern.read? source)).Sound := by
  obtain ⟨own, bounded⟩ := sound
  rw [PatternCache.insert]
  constructor
  · intro other compiled found
    rw [find?, Ordered.get?_put] at found
    by_cases same : source = other
    · rw [if_pos same, Option.some.injEq] at found
      rw [← found, same]
    · rw [if_neg same] at found
      split at found
      · contradiction
      · exact own other compiled found
  · refine Nat.le_trans (Ordered.length_put_le source _ _) ?_
    split
    · decide
    · omega

/-- A lower bound for the steps that lie behind an evaluation. -/
def Stage.steps : Stage → Nat
  | .waiting => 0
  | .missed => 1
  | .done _ => 2

namespace Evaluation

variable {e : Evaluation} {cache : PatternCache}

/-- An evaluation that is done has the verdict of its value and parameters. -/
def Faithful (e : Evaluation) : Prop :=
  ∀ verdict, e.stage = .done verdict → verdict = Verdict.ofPattern e.value e.params

/-- The verdict after a look-up or an insertion is that of the rule without a cache. -/
theorem verdict_read (e : Evaluation) :
    e.verdict (Pattern.read? (Builtin.patternSource e.params)) =
      Verdict.ofPattern e.value e.params :=
  Builtin.evaluate_pattern e.value e.params

/-- Two steps with nothing between them are the evaluation through the cache. -/
theorem advance_advance (value : Json) (params : List String) (cache : PatternCache) :
    let once := (⟨value, params, .waiting⟩ : Evaluation).advance cache
    once.1.advance once.2 =
      (⟨value, params, .done (cache.evaluate .pattern value params).1⟩,
        (cache.evaluate .pattern value params).2) := by
  simp only [advance, PatternCache.evaluate, PatternCache.compile]
  cases text : value.scalarText? with
  | none => simp only [Builtin.evaluate_pattern, Verdict.ofPattern, text]
  | some text => cases cache.find? (Builtin.patternSource params) <;> rfl

/-- One step over a sound cache: what is evaluated stays, the cache stays sound, a
verdict is the right one, and the evaluation gets on. -/
theorem advance_sound (sound : cache.Sound) (faithful : e.Faithful) :
    ((e.advance cache).1.value, (e.advance cache).1.params) = (e.value, e.params) ∧
      (e.advance cache).2.Sound ∧ (e.advance cache).1.Faithful ∧
      min 2 (e.stage.steps + 1) ≤ (e.advance cache).1.stage.steps := by
  obtain ⟨value, params, stage⟩ := e
  cases stage with
  | done verdict => exact ⟨rfl, sound, faithful, Nat.min_le_left _ _⟩
  | missed =>
    refine ⟨rfl, sound.insert _, ?_, Nat.le_refl _⟩
    rintro _ ⟨⟩
    exact verdict_read _
  | waiting =>
    simp only [advance]
    cases text : value.scalarText? with
    | none =>
      refine ⟨rfl, sound, ?_, by simp [Stage.steps]⟩
      rintro _ ⟨⟩
      rw [Verdict.ofPattern, text]
    | some text =>
      cases found : cache.find? (Builtin.patternSource params) with
      | none => exact ⟨rfl, sound, by rintro _ ⟨⟩, Nat.le_refl _⟩
      | some compiled =>
        refine ⟨rfl, sound, ?_, by simp [Stage.steps]⟩
        rintro _ ⟨⟩
        rw [sound.own _ compiled found]
        exact verdict_read _

end Evaluation

namespace Pool

variable {calls : List (Json × List String)} {taken : List Nat} {pool : Pool}

/-- Evaluations of some calls over a cache of their own, after the steps of a schedule. -/
structure Valid (calls : List (Json × List String)) (taken : List Nat) (pool : Pool) : Prop where
  cache : pool.cache.Sound
  calls : pool.evaluations.map (fun e => (e.value, e.params)) = calls
  each : ∀ (index : Nat) (e : Evaluation), pool.evaluations[index]? = some e →
    e.Faithful ∧ min 2 (taken.count index) ≤ e.stage.steps

theorem valid_start (calls : List (Json × List String)) : Valid calls [] (start calls) := by
  refine ⟨sound_empty, by rw [start, List.map_map]; exact List.map_id calls, ?_⟩
  intro index e here
  rw [start, List.getElem?_map] at here
  obtain ⟨call, _, rfl⟩ := Option.map_eq_some_iff.mp here
  exact ⟨by rintro _ ⟨⟩, by simp⟩

/-- A step of any one evaluation, whatever the others have done to the cache. -/
theorem Valid.step (valid : Valid calls taken pool) (index : Nat) :
    Valid calls (taken ++ [index]) (pool.step index) := by
  obtain ⟨sound, same, each⟩ := valid
  rw [Pool.step]
  cases present : pool.evaluations[index]? with
  | none =>
    refine ⟨sound, same, ?_⟩
    intro other e here
    have apart : index ≠ other := by
      rintro rfl
      rw [present] at here
      contradiction
    rw [List.count_append, List.count_singleton, if_neg (by simpa using apart)]
    exact each other e here
  | some e =>
    obtain ⟨faithful, behind⟩ := each index e present
    obtain ⟨kept, sound, faithful, further⟩ := e.advance_sound sound faithful
    obtain ⟨inside, rfl⟩ := List.getElem?_eq_some_iff.mp present
    refine ⟨sound, ?_, ?_⟩
    · rw [List.map_set, kept, ← List.map_set, List.set_getElem_self, same]
    · intro other later here
      rw [List.count_append, List.count_singleton]
      by_cases own : index = other
      · subst own
        rw [List.getElem?_set_self inside, Option.some.injEq] at here
        subst here
        refine ⟨faithful, Nat.le_trans ?_ further⟩
        simp only [beq_self_eq_true, if_true]
        omega
      · rw [List.getElem?_set_ne own] at here
        simpa [own] using each other later here

theorem valid_run (calls : List (Json × List String)) (schedule : List Nat) :
    Valid calls schedule ((start calls).run schedule) := by
  suffices onward : ∀ (later taken : List Nat) (pool : Pool), Valid calls taken pool →
      Valid calls (taken ++ later) (pool.run later) from
    onward schedule [] (start calls) (valid_start calls)
  intro later
  induction later with
  | nil =>
    intro taken pool valid
    simpa [run] using valid
  | cons index rest ih =>
    intro taken pool valid
    simpa only [run, List.foldl_cons, List.append_assoc, List.singleton_append] using
      ih (taken ++ [index]) (pool.step index) (valid.step index)

/-- Evaluations of the pattern rule over a shared cache that is empty at first, their
steps in any order whatever. The cache never holds more than 256 entries, and
an evaluation that is done has the verdict of its own value and parameters, as it would
have without a cache: that of the compiled pattern, or the reason why there is none.
Two steps are enough for any evaluation to be done. -/
theorem run_transparent (calls : List (Json × List String)) (schedule : List Nat) :
    ((start calls).run schedule).cache.entries.length ≤ 256 ∧
    ((start calls).run schedule).evaluations.map (fun e => (e.value, e.params)) = calls ∧
    (∀ (index : Nat) (e : Evaluation),
      ((start calls).run schedule).evaluations[index]? = some e →
        (∀ verdict, e.stage = .done verdict →
          verdict = Verdict.ofPattern e.value e.params ∧
          verdict = Builtin.evaluate .pattern e.value e.params) ∧
        (2 ≤ schedule.count index → ∃ verdict, e.stage = .done verdict)) ∧
    (∀ value params, (Verdict.ofPattern value params = .invalid .notSingle ↔
        (∃ items, value = .array items) ∨ ∃ members, value = .object members) ∧
      (Verdict.ofPattern value params = .invalid .badPattern ↔
        value.scalarText?.isSome = true ∧ Pattern.read? (Text.join "," params) = none)) := by
  obtain ⟨sound, same, each⟩ := valid_run calls schedule
  refine ⟨sound.bounded, same, ?_, ?_⟩
  · intro index e here
    obtain ⟨faithful, behind⟩ := each index e here
    refine ⟨?_, ?_⟩
    · intro verdict ended
      have own := faithful verdict ended
      exact ⟨own, own.trans (Builtin.evaluate_pattern _ _).symm⟩
    · intro twice
      cases stage : e.stage with
      | done verdict => exact ⟨verdict, rfl⟩
      | waiting | missed =>
        rw [stage] at behind
        simp only [Stage.steps] at behind
        omega
  · intro value params
    exact ⟨by rw [Verdict.ofPattern_notSingle_iff, Json.scalarText?_eq_none_iff],
      Verdict.ofPattern_badPattern_iff value params⟩

end Pool

end PatternCache

end FieldRules
