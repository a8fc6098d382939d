import FieldRules.Batch
import FieldRules.Proofs.Resolution

/-! Batches whose runs end in any order. A slot is empty until the run of its own
input has ended and keeps that report to the end, so no order of arrival can lose,
double or move a report. If there is an error then all runs have the same one, and it
does not matter which of them is the first to arrive. -/
namespace FieldRules.Batch

/-- Validates inputs one after the other and stops at the first error. -/
def oneByOne (registry : Registry) (policy : Policy) (inputs : List Json) :
    Except ConfigError (List Report) :=
  inputs.mapM fun input => validate registry policy (Source.ofJson input) .null

/-- Slots with some reports still to come. A slot is empty just if its own report is
among these, and nothing else will ever arrive for it. -/
structure Awaiting (reports : List Report) (awaited : List Completion)
    (slots : List (Option Report)) : Prop where
  length : slots.length = reports.length
  distinct : (awaited.map Prod.fst).Nodup
  own : ∀ place result, (place, result) ∈ awaited →
    ∃ report, reports[place]? = some report ∧ result = .ok report
  slot : ∀ place report, reports[place]? = some report →
    slots[place]? = some (if place ∈ awaited.map Prod.fst then none else some report)

namespace Awaiting

variable {reports : List Report} {slots : List (Option Report)} {rest : List Completion}

/-- At the start all slots are empty, whatever the order in which the runs will end. -/
theorem initial {order : List Completion}
    (arrival : order.Perm (reports.zipIdx.map fun (report, place) => (place, .ok report))) :
    Awaiting reports order (List.replicate reports.length none) := by
  have places : (order.map Prod.fst).Perm (List.range' 0 reports.length) := by
    have same := arrival.map Prod.fst
    rw [List.map_map] at same
    rw [← List.zipIdx_map_snd 0 reports]
    exact same
  refine ⟨List.length_replicate, places.nodup_iff.mpr List.nodup_range', ?_, ?_⟩
  · intro place result member
    obtain ⟨⟨report, _⟩, numbered, same⟩ := List.mem_map.mp (arrival.mem_iff.mp member)
    obtain ⟨rfl, rfl⟩ := Prod.mk.inj same
    exact ⟨report, List.mem_zipIdx_iff_getElem?.mp numbered, rfl⟩
  · intro place report found
    have inside : place < reports.length := (List.getElem?_eq_some_iff.mp found).1
    have listed : place ∈ order.map Prod.fst := by
      rw [places.mem_iff, List.mem_range']
      exact ⟨place, inside, by omega⟩
    rw [if_pos listed, List.getElem?_replicate_of_lt inside]

/-- An arrival fills a slot that was empty, and only this one. -/
theorem arrive {place : Nat} {report : Report}
    (awaiting : Awaiting reports ((place, .ok report) :: rest) slots) :
    slots[place]? = some none ∧ Awaiting reports rest (slots.set place (some report)) := by
  obtain ⟨length, distinct, own, slot⟩ := awaiting
  rw [List.map_cons, List.nodup_cons] at distinct
  obtain ⟨fresh, distinct⟩ := distinct
  obtain ⟨_, found, same⟩ := own place (.ok report) List.mem_cons_self
  cases same
  have empty : slots[place]? = some none := by
    rw [slot place report found, if_pos (by simp)]
  refine ⟨empty, ?_, distinct, ?_, ?_⟩
  · rw [List.length_set, length]
  · intro other result member
    exact own other result (List.mem_cons_of_mem _ member)
  · intro other reported here
    by_cases arrived : other = place
    · subst arrived
      have inside : other < slots.length := (List.getElem?_eq_some_iff.mp empty).1
      rw [List.getElem?_set_self inside, if_neg fresh]
      rw [found] at here
      exact here ▸ rfl
    · rw [List.getElem?_set_ne (Ne.symm arrived), slot other reported here]
      simp only [List.map_cons, List.mem_cons, arrived, false_or]

/-- When nothing is awaited any more, the slots hold exactly the reports. -/
theorem complete (awaiting : Awaiting reports [] slots) : slots = reports.map some := by
  apply List.ext_getElem?
  intro place
  rw [List.getElem?_map]
  cases found : reports[place]? with
  | none =>
    rw [List.getElem?_eq_none_iff, ← awaiting.length] at found
    exact List.getElem?_eq_none found
  | some report => exact awaiting.slot place report found

/-- Collecting comes to the reports in the order of their inputs. -/
theorem collectInto_eq {awaited : List Completion} (awaiting : Awaiting reports awaited slots) :
    collectInto slots awaited = .ok reports := by
  induction awaited generalizing slots with
  | nil =>
    rw [collectInto, awaiting.complete, List.filterMap_map, Function.id_comp, List.filterMap_some]
  | cons completion rest ih =>
    obtain ⟨place, result⟩ := completion
    obtain ⟨report, _, rfl⟩ := awaiting.own place result List.mem_cons_self
    exact ih awaiting.arrive.2

end Awaiting

/-- If all runs end with one error then the first to arrive ends the batch with it. -/
theorem collectInto_error {error : ConfigError} {slots : List (Option Report)}
    {awaited : List Completion} (some : awaited ≠ [])
    (failed : ∀ place result, (place, result) ∈ awaited → result = .error error) :
    collectInto slots awaited = .error error := by
  cases awaited with
  | nil => contradiction
  | cons completion rest =>
    obtain ⟨place, result⟩ := completion
    rw [failed place result List.mem_cons_self, collectInto]

variable {registry : Registry} {policy : Policy}

theorem oneByOne_resolved (resolved : registry.ResolvesAll policy.schema) (inputs : List Json) :
    ∃ reports, oneByOne registry policy inputs = .ok reports ∧
      (inputs.map fun input => validate registry policy (Source.ofJson input) .null) =
        reports.map .ok := by
  induction inputs with
  | nil => exact ⟨[], rfl, rfl⟩
  | cons input rest ih =>
    obtain ⟨report, ran⟩ := (Run.validate_ok_iff (Source.ofJson input) .null).mpr resolved
    obtain ⟨reports, listed, same⟩ := ih
    refine ⟨report :: reports, ?_, by rw [List.map_cons, ran, same, List.map_cons]⟩
    rw [oneByOne] at listed
    rw [oneByOne, List.mapM_cons, ran, listed]
    rfl

theorem oneByOne_error {error : ConfigError}
    (refused : registry.verify policy.schema = .error error) {inputs : List Json}
    (some : inputs ≠ []) :
    oneByOne registry policy inputs = .error error := by
  cases inputs with
  | nil => contradiction
  | cons input rest =>
    have failed := (Run.validate_error_iff (Source.ofJson input) .null error).mpr refused
    rw [oneByOne, List.mapM_cons, failed]
    rfl

theorem completions_resolved {inputs : List Json} {reports : List Report}
    (ran : (inputs.map fun input => validate registry policy (Source.ofJson input) .null) =
      reports.map .ok) :
    completions registry policy inputs =
      reports.zipIdx.map fun (report, place) => (place, .ok report) := by
  have numbered := congrArg
    (fun results => results.zipIdx.map fun (result, place) => (place, result)) ran
  simp only [List.zipIdx_map, List.map_map] at numbered
  exact numbered

theorem completions_error {error : ConfigError}
    (refused : registry.verify policy.schema = .error error) {inputs : List Json} {place : Nat}
    {result : Except ConfigError Report}
    (member : (place, result) ∈ completions registry policy inputs) : result = .error error := by
  obtain ⟨⟨input, _⟩, _, same⟩ := List.mem_map.mp member
  obtain ⟨_, rfl⟩ := Prod.mk.inj same
  exact (Run.validate_error_iff (Source.ofJson input) .null error).mpr refused

theorem collect_resolved (resolved : registry.ResolvesAll policy.schema) {inputs : List Json}
    {order : List Completion} (arrival : order.Perm (completions registry policy inputs)) :
    ∃ reports, collect inputs.length order = .ok reports ∧
      oneByOne registry policy inputs = .ok reports ∧
      (inputs.map fun input => validate registry policy (Source.ofJson input) .null) =
        reports.map .ok := by
  obtain ⟨reports, listed, ran⟩ := oneByOne_resolved resolved inputs
  have length : inputs.length = reports.length := by
    simpa only [List.length_map] using congrArg List.length ran
  rw [completions_resolved ran] at arrival
  refine ⟨reports, ?_, listed, ran⟩
  rw [length]
  exact (Awaiting.initial arrival).collectInto_eq

theorem collect_error {error : ConfigError}
    (refused : registry.verify policy.schema = .error error) {inputs : List Json}
    (some : inputs ≠ []) {order : List Completion}
    (arrival : order.Perm (completions registry policy inputs)) :
    collect inputs.length order = .error error := by
  apply collectInto_error
  · rw [← List.length_pos_iff] at some ⊢
    rw [arrival.length_eq, completions, List.length_map, List.length_zipIdx]
    exact some
  · intro place result member
    exact completions_error refused (arrival.mem_iff.mp member)

/-- A batch gives what its inputs give one after the other, in whatever order its runs
end. With all names known there is one report for each input, in its place; otherwise
any input at all brings up the error of the first declared rule without a meaning. -/
theorem collect_any_order (registry : Registry) (policy : Policy) (inputs : List Json)
    (order : List Completion) (arrival : order.Perm (completions registry policy inputs)) :
    collect inputs.length order = oneByOne registry policy inputs ∧
    (registry.ResolvesAll policy.schema →
      ∃ reports, collect inputs.length order = .ok reports ∧ reports.length = inputs.length ∧
        ∀ (place : Nat) (input : Json), inputs[place]? = some input →
          ∃ report, reports[place]? = some report ∧
            validate registry policy (Source.ofJson input) .null = .ok report) ∧
    (∀ field rule, registry.FirstUnknown policy.schema field rule → inputs ≠ [] →
      collect inputs.length order = .error (.unknownRule field rule)) ∧
    (registry.ResolvesAll policy.schema ∨
      ∃ field rule, registry.FirstUnknown policy.schema field rule) ∧
    (inputs = [] → collect inputs.length order = .ok []) := by
  have nothing : inputs = [] → collect inputs.length order = .ok [] := by
    rintro rfl
    rw [arrival.eq_nil]
    rfl
  refine ⟨?_, ?_, ?_, ?_, nothing⟩
  · by_cases resolved : registry.ResolvesAll policy.schema
    · obtain ⟨reports, collected, listed, _⟩ := collect_resolved resolved arrival
      rw [collected, listed]
    · obtain ⟨field, rule, first⟩ := Registry.exists_firstUnknown resolved
      have refused := (Registry.verify_error_iff policy.schema field rule).mpr first
      by_cases some : inputs = []
      · rw [nothing some, some]
        rfl
      · rw [collect_error refused some arrival, oneByOne_error refused some]
  · intro resolved
    obtain ⟨reports, collected, _, ran⟩ := collect_resolved resolved arrival
    refine ⟨reports, collected, ?_, ?_⟩
    · simpa only [List.length_map] using (congrArg List.length ran).symm
    · intro place input here
      have own := congrArg (·[place]?) ran
      simp only [List.getElem?_map, here, Option.map_some] at own
      obtain ⟨report, found, same⟩ := Option.map_eq_some_iff.mp own.symm
      exact ⟨report, found, same.symm⟩
  · intro field rule first some
    exact collect_error ((Registry.verify_error_iff policy.schema field rule).mpr first) some
      arrival
  · by_cases resolved : registry.ResolvesAll policy.schema
    · exact .inl resolved
    · exact .inr (Registry.exists_firstUnknown resolved)

def shortNames : Policy := (Definition.ofSchema (Schema.ofDeclarations [("name", "max:3")])).policy

theorem collect_any_order_reversed :
    ∃ reports, collect 2 (completions Registry.empty shortNames
        [.object [("name", .string "abc")], .object [("name", .string "abcd")]]).reverse =
          .ok reports ∧
      reports.map Report.status = [true, false] := by
  obtain ⟨same, given, _⟩ := collect_any_order Registry.empty shortNames
    [.object [("name", .string "abc")], .object [("name", .string "abcd")]] _ (List.reverse_perm _)
  obtain ⟨reports, collected, _⟩ := given (by decide +kernel)
  refine ⟨reports, collected, Option.some.inj ?_⟩
  calc
    some (reports.map Report.status)
    _ = (Except.ok reports : Except ConfigError _).toOption.map (List.map Report.status) := rfl
    _ = (oneByOne Registry.empty shortNames [.object [("name", .string "abc")],
          .object [("name", .string "abcd")]]).toOption.map (List.map Report.status) := by
      rw [← collected, same]
    _ = some [true, false] := by decide +kernel

end FieldRules.Batch
