import Mathlib.Data.List.Destutter
import Mathlib.Data.List.Induction
import FieldRules.Registry
import FieldRules.Proofs.Ordered

/-! Registries as the sequences of registrations that make them. What a name stands for is
told by the last registration under it, and by the built-in rules where there is none; the
look-ups, the test for a name and the list of the names say the same of every name. The
list is in the order of the bytes of the names, which is that of their characters. -/
namespace FieldRules

namespace Text

def bytes (text : String) : List UInt8 := text.toUTF8.data.toList

theorem bytes_eq (text : String) : bytes text = text.toList.flatMap String.utf8EncodeChar := by
  have encoded : text.toUTF8 = text.toList.utf8Encode := by
    rw [String.toUTF8_eq_toByteArray, ← String.toByteArray_ofList, String.ofList_toList]
  rw [bytes, encoded, List.utf8Encode, List.toList_data_toByteArray]

/-- The bytes of a smaller character come first, whatever follows them. -/
theorem utf8EncodeChar_lt {c d : Char} (less : c < d) (rest rest' : List UInt8) :
    String.utf8EncodeChar c ++ rest < String.utf8EncodeChar d ++ rest' := by
  have less : c.val.toNat < d.val.toNat := less
  have bound : d.val.toNat < 0x110000 := by
    rcases d.valid with low | ⟨_, high⟩
    · exact Nat.lt_trans low (by decide)
    · exact high
  -- Fewer bytes have a smaller first one; of equally many the first that differ decide.
  simp only [String.utf8EncodeChar]
  split_ifs <;>
    simp only [List.cons_append, List.nil_append, List.cons_lt_cons_iff, UInt8.lt_iff_toNat_lt,
      ← UInt8.toNat_inj, UInt8.toNat_ofNat'] <;>
    simp (disch := omega) only [Nat.mod_eq_of_lt] <;>
    omega

theorem flatMap_utf8EncodeChar_lt {chars others : List Char} (less : chars < others) :
    chars.flatMap String.utf8EncodeChar < others.flatMap String.utf8EncodeChar := by
  induction less with
  | nil =>
    rename_i c rest
    obtain ⟨first, more, encoded⟩ :=
      List.exists_cons_of_ne_nil (String.utf8EncodeChar_ne_nil (c := c))
    rw [List.flatMap_cons, encoded]
    exact List.nil_lt_cons _ _
  | rel less => exact utf8EncodeChar_lt less _ _
  | cons _ ih => exact List.append_left_lt ih

/-- Texts are in the order of their bytes. -/
theorem bytes_lt_iff (text other : String) : bytes text < bytes other ↔ text < other := by
  have monotone : ∀ {a b : String}, a < b → bytes a < bytes b := by
    intro a b less
    rw [bytes_eq, bytes_eq]
    exact flatMap_utf8EncodeChar_lt less
  constructor
  · intro less
    by_contra notLess
    rcases Decidable.em (other < text) with more | notMore
    · exact List.lt_asymm less (monotone more)
    · rw [String.le_antisymm notMore notLess] at less
      exact List.lt_irrefl _ less
  · exact monotone

end Text

namespace Builtin

variable {name : String} {rule : Builtin}

theorem ofName?_eq_some_iff : ofName? name = some rule ↔ rule.name = name := by
  constructor
  · intro found
    exact eq_of_beq (List.find?_some (p := fun rule : Builtin => rule.name == name) found)
  · rintro rfl
    cases rule <;> decide

theorem mem_all (rule : Builtin) : rule ∈ all := by
  cases rule <;> decide

theorem isSome_ofName?_iff : (ofName? name).isSome = true ↔ name ∈ all.map Builtin.name := by
  simp only [Option.isSome_iff_exists, ofName?_eq_some_iff, List.mem_map, mem_all, true_and]

end Builtin

namespace Registry

section Names

variable {name other : String} {sorted : List String}

theorem mem_insertName : other ∈ insertName name sorted ↔ other = name ∨ other ∈ sorted := by
  induction sorted with
  | nil => exact List.mem_singleton.trans (or_iff_left List.not_mem_nil).symm
  | cons first rest ih =>
    rw [insertName]
    split
    · exact List.mem_cons
    · split
      · next same =>
        rw [same, List.mem_cons]
        exact (or_iff_right_of_imp .inl).symm
      · rw [List.mem_cons, List.mem_cons, ih]
        exact or_left_comm

theorem pairwise_insertName (name : String) (increasing : sorted.Pairwise (· < ·)) :
    (insertName name sorted).Pairwise (· < ·) := by
  induction sorted with
  | nil => exact List.pairwise_singleton _ _
  | cons first rest ih =>
    obtain ⟨least, increasing'⟩ := List.pairwise_cons.mp increasing
    rw [insertName]
    split
    · next less =>
      refine List.pairwise_cons.mpr ⟨?_, increasing⟩
      intro later member
      rcases List.mem_cons.mp member with rfl | member
      · exact less
      · exact String.lt_trans less (least later member)
    · next notLess =>
      split
      · exact increasing
      · next differs =>
        have less : first < name := by
          by_contra notMore
          exact differs (String.le_antisymm notMore notLess)
        refine List.pairwise_cons.mpr ⟨?_, ih increasing'⟩
        intro later member
        rcases mem_insertName.mp member with rfl | member
        · exact less
        · exact least later member

theorem foldl_insertName (listed : List String) (increasing : sorted.Pairwise (· < ·)) :
    (listed.foldl (fun sorted name => insertName name sorted) sorted).Pairwise (· < ·) ∧
      ∀ name, name ∈ listed.foldl (fun sorted name => insertName name sorted) sorted ↔
        name ∈ listed ∨ name ∈ sorted := by
  induction listed generalizing sorted with
  | nil => exact ⟨increasing, fun name => (or_iff_right List.not_mem_nil).symm⟩
  | cons first rest ih =>
    obtain ⟨increasing', members⟩ := ih (pairwise_insertName first increasing)
    refine ⟨increasing', fun name => ?_⟩
    rw [List.foldl_cons, members, mem_insertName, List.mem_cons]
    exact or_left_comm.trans or_assoc.symm

theorem pairwise_names (registry : Registry) : registry.names.Pairwise (· < ·) :=
  (foldl_insertName _ List.Pairwise.nil).1

theorem mem_names (registry : Registry) :
    name ∈ registry.names ↔
      name ∈ Builtin.all.map Builtin.name ∨ name ∈ Ordered.keys registry.custom := by
  rw [names, (foldl_insertName _ List.Pairwise.nil).2, or_iff_left List.not_mem_nil,
    List.mem_append, Ordered.keys]

theorem nodup_of_increasing (increasing : sorted.Pairwise (· < ·)) : sorted.Nodup :=
  increasing.imp String.ne_of_lt

theorem eq_of_increasing {others : List String} (increasing : sorted.Pairwise (· < ·))
    (increasing' : others.Pairwise (· < ·)) (same : ∀ name, name ∈ sorted ↔ name ∈ others) :
    sorted = others := by
  refine List.Perm.eq_of_pairwise ?_ increasing increasing' ?_
  · intro a b _ _ less more
    exact absurd more (String.lt_asymm less)
  · exact (List.perm_ext_iff_of_nodup (nodup_of_increasing increasing)
      (nodup_of_increasing increasing')).mpr fun {name} => same name

/-- Dropping the repetitions next to each other loses no member. -/
theorem mem_destutter_ne (listed : List String) :
    name ∈ listed.destutter (· ≠ ·) ↔ name ∈ listed := by
  refine ⟨fun member => (List.destutter_sublist _ listed).subset member, ?_⟩
  cases listed with
  | nil => exact id
  | cons first rest =>
    rw [List.destutter_cons']
    intro member
    induction rest generalizing first with
    | nil => exact member
    | cons next rest ih =>
      by_cases same : first = next
      · rw [List.destutter'_cons_neg (h := not_not.mpr same)]
        rcases List.mem_cons.mp member with rfl | member
        · exact List.mem_destutter' ..
        · exact same ▸ ih next (same ▸ member)
      · rw [List.destutter'_cons_pos (h := same)]
        rcases List.mem_cons.mp member with rfl | member
        · exact List.mem_cons_self
        · exact List.mem_cons_of_mem _ (ih next member)

/-- Where neighbours in an ordered list differ, the list is increasing. -/
theorem increasing_of_isChain (ordered : sorted.Pairwise (· ≤ ·))
    (differ : sorted.IsChain (· ≠ ·)) : sorted.Pairwise (· < ·) := by
  induction differ with
  | nil => exact List.Pairwise.nil
  | singleton => exact List.pairwise_singleton _ _
  | @cons_cons first next rest differs _ ih =>
    obtain ⟨least, ordered⟩ := List.pairwise_cons.mp ordered
    have increasing := ih ordered
    have less : first < next := by
      by_contra notLess
      exact differs (String.le_antisymm (least next List.mem_cons_self) notLess)
    refine List.pairwise_cons.mpr ⟨?_, increasing⟩
    intro later member
    rcases List.mem_cons.mp member with rfl | member
    · exact less
    · exact String.lt_trans less ((List.pairwise_cons.mp increasing).1 later member)

/-- The names are what sorting and then dropping repetitions gives, in whatever order the
registered names are taken. -/
theorem names_eq_sorted (registry : Registry) {listed : List String}
    (perm : listed.Perm (Ordered.keys registry.custom)) :
    registry.names =
      ((Builtin.all.map Builtin.name ++ listed).mergeSort).destutter (· ≠ ·) := by
  have ordered : ((Builtin.all.map Builtin.name ++ listed).mergeSort).Pairwise (· ≤ ·) := by
    refine (List.pairwise_mergeSort ?_ ?_ _).imp of_decide_eq_true
    · intro a b c first second
      exact decide_eq_true (String.le_trans (of_decide_eq_true first) (of_decide_eq_true second))
    · intro a b
      simpa using String.le_total a b
  apply eq_of_increasing registry.pairwise_names
  · exact increasing_of_isChain (ordered.sublist (List.destutter_sublist _ _))
      (List.isChain_destutter _ _)
  · intro name
    rw [mem_names, mem_destutter_ne, List.mem_mergeSort, List.mem_append, perm.mem_iff]

end Names

section Registrations

variable {registrations : List (String × Factory)} {name : String}

def latest? (registrations : List (String × Factory)) (name : String) : Option Factory :=
  ((registrations.filter (·.1 = name)).getLast?).map Prod.snd

theorem ofRegistrations_concat (registrations : List (String × Factory))
    (last : String × Factory) :
    ofRegistrations (registrations ++ [last]) =
      (ofRegistrations registrations).register last.1 last.2 :=
  List.foldl_append

theorem get?_ofRegistrations (registrations : List (String × Factory)) (name : String) :
    Ordered.get? name (ofRegistrations registrations).custom = latest? registrations name := by
  induction registrations using List.reverseRecOn with
  | nil => rfl
  | append_singleton earlier last ih =>
    obtain ⟨registered, factory⟩ := last
    rw [ofRegistrations_concat, latest?, List.filter_append]
    simp only [register, Ordered.get?_put, ih]
    by_cases here : registered = name
    · simp [here]
    · simp [here, latest?]

/-- Names stand for what was registered last under them, and the others for built-in rules. -/
theorem resolve?_ofRegistrations (registrations : List (String × Factory)) (name : String) :
    (ofRegistrations registrations).resolve? name =
      match latest? registrations name with
      | some factory => some (.custom factory)
      | none => (Builtin.ofName? name).map .builtin := by
  cases latest : latest? registrations name <;> simp [resolve?, get?_ofRegistrations, latest]

theorem contains_ofRegistrations {registration : String × Factory}
    (member : registration ∈ registrations) :
    (ofRegistrations registrations).contains registration.1 = true := by
  have some : latest? registrations registration.1 ≠ none := by
    rw [latest?, ne_eq, Option.map_eq_none_iff, List.getLast?_eq_none_iff]
    exact List.ne_nil_of_mem (List.mem_filter.mpr ⟨member, by simp⟩)
  rw [contains, Ordered.has, get?_ofRegistrations, Option.isSome_iff_ne_none.mpr some,
    Bool.true_or]

/-- The last registration under a name is one that no other under this name follows. -/
theorem latest?_eq_some_iff {factory : Factory} :
    latest? registrations name = some factory ↔
      ∃ before after, registrations = before ++ (name, factory) :: after ∧
        name ∉ Ordered.keys after := by
  rw [latest?, List.getLast?_filter]
  constructor
  · intro latest
    obtain ⟨⟨registered, factory⟩, found, rfl⟩ := Option.map_eq_some_iff.mp latest
    obtain ⟨here, after, before, split, others⟩ := List.find?_eq_some_iff_append.mp found
    obtain rfl : registered = name := of_decide_eq_true here
    refine ⟨before.reverse, after.reverse, ?_, ?_⟩
    · rw [← List.reverse_reverse registrations, split]
      simp
    · intro later
      obtain ⟨entry, member, same⟩ := List.mem_map.mp later
      have other := others entry (List.mem_reverse.mp member)
      rw [same] at other
      simp at other
  · rintro ⟨before, after, rfl, last⟩
    refine Option.map_eq_some_iff.mpr ⟨(name, factory), ?_, rfl⟩
    refine List.find?_eq_some_iff_append.mpr
      ⟨decide_eq_true rfl, after.reverse, before.reverse, by simp, ?_⟩
    intro entry member
    have other : entry.1 ≠ name := by
      intro same
      exact last (List.mem_map.mpr ⟨entry, List.mem_reverse.mp member, same⟩)
    simp [other]

theorem latest?_eq_none_iff :
    latest? registrations name = none ↔ name ∉ Ordered.keys registrations := by
  rw [latest?, Option.map_eq_none_iff, List.getLast?_eq_none_iff, List.filter_eq_nil_iff,
    Ordered.keys, List.mem_map]
  simp only [decide_eq_true_eq, not_exists, not_and]

theorem mem_keys_ofRegistrations :
    name ∈ Ordered.keys (ofRegistrations registrations).custom ↔
      name ∈ Ordered.keys registrations := by
  rw [← not_iff_not, ← Ordered.get?_eq_none_iff, get?_ofRegistrations, latest?_eq_none_iff]

end Registrations

section Views

theorem lookup_eq_ok_iff {registry : Registry} {field : String} {spec : RuleSpec}
    {kind : RuleKind} :
    registry.lookup field spec = .ok kind ↔ registry.resolve? spec.name = some kind := by
  rw [lookup]
  cases registry.resolve? spec.name <;> simp

theorem isSome_resolve?_iff (registry : Registry) (name : String) :
    (registry.resolve? name).isSome = true ↔
      name ∈ Builtin.all.map Builtin.name ∨ name ∈ Ordered.keys registry.custom := by
  rw [← Ordered.has_iff, resolve?, Ordered.has]
  cases Ordered.get? name registry.custom with
  | some factory => simp
  | none => simp [Builtin.isSome_ofName?_iff]

theorem contains_eq (registry : Registry) (name : String) :
    registry.contains name = (registry.resolve? name).isSome := by
  rw [contains, resolve?, Ordered.has]
  cases Ordered.get? name registry.custom with
  | some factory => rfl
  | none => simp

/-- A registration has a say in what its own name stands for and in no other. -/
theorem resolve?_register (registry : Registry) (registered : String) (factory : Factory)
    (name : String) :
    (registry.register registered factory).resolve? name =
      if registered = name then some (.custom factory) else registry.resolve? name := by
  rw [resolve?, register, Ordered.get?_put]
  by_cases here : registered = name
  · rw [if_pos here, if_pos here]
  · rw [if_neg here, if_neg here, resolve?]

variable (registrations : List (String × Factory)) (name : String)

theorem resolve?_eq_custom_iff (factory : Factory) :
    (ofRegistrations registrations).resolve? name = some (.custom factory) ↔
      latest? registrations name = some factory := by
  rw [resolve?_ofRegistrations]
  cases latest? registrations name with
  | some other => simp
  | none => simp

theorem resolve?_eq_builtin_iff (rule : Builtin) :
    (ofRegistrations registrations).resolve? name = some (.builtin rule) ↔
      rule.name = name ∧ name ∉ Ordered.keys registrations := by
  rw [resolve?_ofRegistrations, ← latest?_eq_none_iff]
  cases latest? registrations name with
  | some factory => simp
  | none => simp [Builtin.ofName?_eq_some_iff]

/-- The views of a registry agree, whatever was registered, under whatever names and in
whatever order. A name is contained, is listed and can be looked up for any field just if it
stands for a rule. The listed names are those of the thirteen built-in rules and of the
registrations, increasing by their bytes; sorting the names and dropping repetitions lists
the same. A name stands for the rule registered last under it, or else for the built-in
rule of exactly this name, and a registration changes what its own name stands for only. -/
theorem views_agree (registrations : List (String × Factory)) :
    let registry := ofRegistrations registrations
    (∀ name, (registry.contains name = true ↔ (registry.resolve? name).isSome = true) ∧
      (name ∈ registry.names ↔ (registry.resolve? name).isSome = true)) ∧
    (∀ field spec, ((∃ kind, registry.lookup field spec = .ok kind) ↔
        (registry.resolve? spec.name).isSome = true) ∧
      ∀ kind, registry.lookup field spec = .ok kind ↔ registry.resolve? spec.name = some kind) ∧
    registry.names.Pairwise (fun name next => Text.bytes name < Text.bytes next) ∧
    registry.names.Nodup ∧
    (∀ name, name ∈ registry.names ↔
      name ∈ Builtin.all.map Builtin.name ∨ name ∈ registrations.map Prod.fst) ∧
    (Builtin.all.map Builtin.name).Nodup ∧ Builtin.all.length = 13 ∧ (∀ rule, rule ∈ Builtin.all) ∧
    (∀ listed, listed.Perm (Ordered.keys registry.custom) →
      ((Builtin.all.map Builtin.name ++ listed).mergeSort).destutter (· ≠ ·) = registry.names) ∧
    (∀ name factory, registry.resolve? name = some (.custom factory) ↔
      ∃ before after, registrations = before ++ (name, factory) :: after ∧
        name ∉ after.map Prod.fst) ∧
    (∀ name rule, registry.resolve? name = some (.builtin rule) ↔
      rule.name = name ∧ name ∉ registrations.map Prod.fst) ∧
    ∀ registered factory name, (registry.register registered factory).resolve? name =
      if registered = name then some (.custom factory) else registry.resolve? name := by
  intro registry
  have listed : ∀ name, name ∈ registry.names ↔ (registry.resolve? name).isSome = true := by
    intro name
    rw [mem_names, isSome_resolve?_iff]
  refine ⟨?_, ?_, ?_, nodup_of_increasing registry.pairwise_names, ?_, by decide, rfl,
    Builtin.mem_all, fun _ perm => (registry.names_eq_sorted perm).symm, ?_, ?_,
    registry.resolve?_register⟩
  · intro name
    exact ⟨by rw [contains_eq], listed name⟩
  · intro field spec
    refine ⟨?_, fun kind => lookup_eq_ok_iff⟩
    simp only [lookup_eq_ok_iff, Option.isSome_iff_exists]
  · exact registry.pairwise_names.imp (Text.bytes_lt_iff _ _).mpr
  · intro name
    rw [mem_names, mem_keys_ofRegistrations, Ordered.keys]
  · intro name factory
    rw [resolve?_eq_custom_iff, latest?_eq_some_iff]
    rfl
  · exact resolve?_eq_builtin_iff registrations

end Views

end Registry
end FieldRules
