import Mathlib.Data.List.Perm.Basic
import FieldRules.Proofs.DocumentContents

/-! Documents whose maps are listed in different orders. Templates are found under
keys that stand once, so their order is of no account. Keys of information texts are
read as codes, and several may read as one: then the last of them to be taken over
decides. Likewise the first key that is no code is the one that the error names. -/
namespace FieldRules

/-- Definitions that agree in everything, in information texts for some codes only. -/
structure Definition.AgreeOn (codes : Code → Prop) (a b : Definition) : Prop where
  schema : a.schema = b.schema
  template : ∀ field rule, a.overrides.get? field rule = b.overrides.get? field rule
  info : ∀ code, codes code → a.info? code = b.info? code
  failedCode : a.failedCode = b.failedCode
  succeedCode : a.succeedCode = b.succeedCode
  failedInfo : a.failedInfo = b.failedInfo
  succeedInfo : a.succeedInfo = b.succeedInfo
  check : a.check = b.check

namespace Document

/-- Every map of a document has a key once. -/
structure Listed (document : Document) : Prop where
  messages : (Ordered.keys document.messages).Nodup
  rules : ∀ entry ∈ document.messages, (Ordered.keys entry.2).Nodup
  info : (Ordered.keys document.info).Nodup

/-- The same document with its maps listed in another order: the fields that have
templates, the rules of each of these fields, and the keys of information texts. -/
structure Reordered (a b : Document) : Prop where
  messages : ∃ order : String → List (String × String) → List (String × String),
    (∀ (field : String) (rules : List (String × String)), rules.Perm (order field rules)) ∧
      (a.messages.map fun (field, rules) => (field, order field rules)).Perm b.messages
  info : a.info.Perm b.info
  rest : { a with messages := b.messages, info := b.info } = b

/-- The same error, or definitions that agree in everything. -/
def SameResult : Except ConfigError Definition → Except ConfigError Definition → Prop
  | .ok d, .ok e => d.AgreeOn (fun _ => True) e
  | .error error, .error other => error = other
  | _, _ => False

/-- All keys that read as a code have one text. -/
def Settled (document : Document) (code : Code) : Prop :=
  ∀ text ∈ document.textsOf code, ∀ other ∈ document.textsOf code, text = other

/-- Exactly one key is no code, or all are and those of one code have one text. -/
def Determined (document : Document) : Prop :=
  document.badKeys.length = 1 ∨
    document.badKeys = [] ∧ ∀ entry ∈ document.info, ∀ other ∈ document.info,
      code? entry.1 = code? other.1 → entry.2 = other.2

instance (document : Document) : Decidable document.Determined := by
  unfold Determined
  infer_instance

theorem getLast?_eq_of_perm {α : Type} {items others : List α} (perm : items.Perm others)
    (same : ∀ item ∈ items, ∀ other ∈ items, item = other) :
    items.getLast? = others.getLast? := by
  cases last : items.getLast? with
  | none =>
    rw [List.getLast?_eq_none_iff] at last
    subst last
    rw [perm.symm.eq_nil, List.getLast?_nil]
  | some item =>
    cases last' : others.getLast? with
    | none =>
      rw [List.getLast?_eq_none_iff] at last'
      subst last'
      rw [perm.eq_nil] at last
      contradiction
    | some other =>
      rw [same item (List.mem_of_getLast? last) other
        (perm.mem_iff.mpr (List.mem_of_getLast? last'))]

section Reordering

variable {a b : Document}

theorem Reordered.notes (reordered : a.Reordered b) : a.notes.Perm b.notes := by
  obtain ⟨order, inner, outer⟩ := reordered.messages
  refine List.Perm.trans ?_ (outer.flatMap_right _)
  rw [List.flatMap_map]
  exact List.Perm.flatMap_left _ fun entry _ => (inner entry.1 entry.2).map _

theorem Reordered.textsOf (reordered : a.Reordered b) (code : Code) :
    (a.textsOf code).Perm (b.textsOf code) :=
  (reordered.info.filter _).map _

theorem Reordered.badKeys (reordered : a.Reordered b) : a.badKeys.Perm b.badKeys :=
  (reordered.info.map _).filter _

theorem Reordered.ofInfo {info : List (String × String)} (perm : a.info.Perm info) :
    a.Reordered { a with info } :=
  ⟨⟨fun _ rules => rules, fun _ rules => .refl rules, by simp⟩, perm, rfl⟩

/-- A field and a rule have one template at most. -/
theorem Listed.notes_unique (listed : a.Listed) {note other : Note} (member : note ∈ a.notes)
    (member' : other ∈ a.notes) (field : note.field = other.field)
    (rule : note.rule = other.rule) : note = other := by
  obtain ⟨⟨owner, rules⟩, here, inside⟩ := List.mem_flatMap.mp member
  obtain ⟨⟨owner', rules'⟩, here', inside'⟩ := List.mem_flatMap.mp member'
  obtain ⟨⟨name, text⟩, entry, rfl⟩ := List.mem_map.mp inside
  obtain ⟨⟨name', text'⟩, entry', rfl⟩ := List.mem_map.mp inside'
  obtain rfl : owner = owner' := field
  obtain rfl : name = name' := rule
  obtain rfl := Ordered.eq_of_mem listed.messages here here'
  obtain rfl := Ordered.eq_of_mem (listed.rules _ here) entry entry'
  rfl

/-- In whatever order the templates are taken, the same one counts for a field and a rule. -/
theorem Listed.getLast?_notes (listed : a.Listed) {templates : List Note}
    (perm : a.notes.Perm templates) (field rule : String) :
    (a.notes.filter fun note => note.field = field ∧ note.rule = rule).getLast? =
      (templates.filter fun note => note.field = field ∧ note.rule = rule).getLast? := by
  refine getLast?_eq_of_perm (perm.filter _) ?_
  intro note member other member'
  simp only [List.mem_filter, decide_eq_true_eq] at member member'
  exact listed.notes_unique member.1 member'.1 (member.2.1.trans member'.2.1.symm)
    (member.2.2.trans member'.2.2.symm)

/-- Definitions made from two listings of a document agree but for the texts of codes
that several keys read as. -/
theorem Makes.agreeOn {d e : Definition} (made : a.Makes d) (made' : b.Makes e)
    (listed : a.Listed) (reordered : a.Reordered b) : d.AgreeOn a.Settled e := by
  have rest := reordered.rest
  refine ⟨?_, ?_, ?_, ?_, ?_, ?_, ?_, made.check.trans made'.check.symm⟩
  · rw [made.schema, made'.schema, ← rest]
  · intro field rule
    rw [made.template, made'.template, listed.getLast?_notes reordered.notes]
  · intro code settled
    rw [made.info, made'.info, getLast?_eq_of_perm (reordered.textsOf code) settled]
  · rw [made.failedCode, made'.failedCode, ← rest]
  · rw [made.succeedCode, made'.succeedCode, ← rest]
  · rw [made.failedInfo, made'.failedInfo, ← rest]
  · rw [made.succeedInfo, made'.succeedInfo, ← rest]

/-- Two listings of a document whose keys are all codes. -/
theorem Reordered.definitions_agree (reordered : a.Reordered b) (listed : a.Listed)
    (good : a.badKeys = []) :
    ∃ d e, a.toDefinition = .ok d ∧ b.toDefinition = .ok e ∧ d.AgreeOn a.Settled e ∧
      ∀ code, e.info? code = (b.textsOf code).getLast? := by
  obtain ⟨d, made, makes⟩ := toDefinition_good good
  obtain ⟨e, made', makes'⟩ := toDefinition_good (good ▸ reordered.badKeys).symm.eq_nil
  exact ⟨d, e, made, made', makes.agreeOn makes' listed reordered, makes'.info⟩

/-- Any key that is no code may be the one that the error names. -/
theorem exists_reordered_error {key : String} (bad : key ∈ a.badKeys) :
    ∃ b, a.Reordered b ∧ b.toDefinition = .error (keyError key) := by
  obtain ⟨listed, unread⟩ := List.mem_filter.mp bad
  obtain ⟨entry, member, rfl⟩ := List.mem_map.mp listed
  refine ⟨_, .ofInfo (List.perm_cons_erase member), toDefinition_bad ?_⟩
  rw [Document.badKeys, List.map_cons, List.filter_cons_of_pos (by exact unread), List.head?_cons]

/-- Any text of a code may be the one that counts. -/
theorem exists_reordered_text (good : a.badKeys = []) {code : Code} {text : String}
    (member : text ∈ a.textsOf code) :
    ∃ b d, a.Reordered b ∧ b.toDefinition = .ok d ∧ d.info? code = some text := by
  obtain ⟨⟨key, text⟩, picked, rfl⟩ := List.mem_map.mp member
  obtain ⟨listed, reads⟩ := List.mem_filter.mp picked
  have reordered : a.Reordered { a with info := a.info.erase (key, text) ++ [(key, text)] } :=
    .ofInfo ((List.perm_cons_erase listed).trans (List.perm_append_singleton _ _).symm)
  obtain ⟨d, made, makes⟩ := toDefinition_good (good ▸ reordered.badKeys).symm.eq_nil
  refine ⟨_, d, reordered, made, ?_⟩
  rw [makes.info, Document.textsOf, List.filter_append, List.map_append,
    List.filter_cons_of_pos (by exact reads)]
  exact List.getLast?_concat

theorem keyError_injective : Function.Injective keyError := by
  intro key other same
  have chars := congrArg String.toList (ConfigError.parse.inj same)
  simp only [String.toList_append, List.append_cancel_left_eq, List.append_cancel_right_eq] at chars
  exact String.toList_injective chars

theorem exists_code (good : a.badKeys = []) {entry : String × String} (member : entry ∈ a.info) :
    ∃ code, code? entry.1 = some code := by
  have read := List.filter_eq_nil_iff.mp good entry.1 (List.mem_map_of_mem member)
  exact Option.ne_none_iff_exists'.mp (of_decide_eq_false (Bool.not_eq_true _ ▸ read))

theorem error_of_badKeys (bad : a.badKeys ≠ []) :
    ∃ key ∈ a.badKeys, a.toDefinition = .error (keyError key) := by
  obtain ⟨key, rest, keys⟩ := List.exists_cons_of_ne_nil bad
  refine ⟨key, keys ▸ List.mem_cons_self, toDefinition_bad ?_⟩
  rw [keys, List.head?_cons]

/-- A result that no order changes leaves no choice of a key that is no code, nor of a
text for a code. -/
theorem determined_of_same (listed : a.Listed)
    (same : ∀ b, a.Reordered b → SameResult a.toDefinition b.toDefinition) : a.Determined := by
  cases keys : a.badKeys with
  | nil =>
    refine .inr ⟨keys, fun entry member other member' alike => ?_⟩
    obtain ⟨code, reads⟩ := exists_code keys member
    obtain ⟨d, made, -⟩ := toDefinition_good keys
    -- an order may put any entry of the code last
    have settled {entry} (member : entry ∈ a.info) (reads : code? entry.1 = some code) :
        d.info? code = some entry.2 := by
      have text : entry.2 ∈ a.textsOf code :=
        List.mem_map_of_mem (List.mem_filter.mpr ⟨member, decide_eq_true reads⟩)
      obtain ⟨b, e, reordered, made', found⟩ := exists_reordered_text keys text
      have agree := same b reordered
      rw [made, made'] at agree
      exact (agree.info code trivial).trans found
    exact Option.some.inj ((settled member reads).symm.trans (settled member' (alike ▸ reads)))
  | cons key rest =>
    refine .inl ?_
    cases rest with
    | nil => rw [keys, List.length_singleton]
    | cons second rest =>
      -- one order begins with the first of these keys, another with the second
      have unlike : key ≠ second := by
        have once : a.badKeys.Nodup := listed.info.filter _
        rw [keys] at once
        exact fun alike => (List.nodup_cons.mp once).1 (alike ▸ List.mem_cons_self)
      obtain ⟨b, reordered, stopped⟩ :=
        exists_reordered_error (keys ▸ List.mem_cons_of_mem key List.mem_cons_self)
      have agree := same b reordered
      rw [stopped, toDefinition_bad (by rw [keys, List.head?_cons])] at agree
      exact absurd (keyError_injective agree) unlike

theorem settled_of_alike
    (alike : ∀ entry ∈ a.info, ∀ other ∈ a.info, code? entry.1 = code? other.1 → entry.2 = other.2)
    (code : Code) : a.Settled code := by
  intro text member other member'
  obtain ⟨⟨key, text⟩, picked, rfl⟩ := List.mem_map.mp member
  obtain ⟨⟨key', other⟩, picked', rfl⟩ := List.mem_map.mp member'
  simp only [List.mem_filter, decide_eq_true_eq] at picked picked'
  exact alike _ picked.1 _ picked'.1 (picked.2.trans picked'.2.symm)

/-- Where there is no choice the order is of no account. -/
theorem same_of_determined (listed : a.Listed) (determined : a.Determined)
    (reordered : a.Reordered b) : SameResult a.toDefinition b.toDefinition := by
  obtain single | ⟨good, alike⟩ := determined
  · obtain ⟨key, keys⟩ := List.length_eq_one_iff.mp single
    have keys' : b.badKeys = [key] := List.perm_singleton.mp (keys ▸ reordered.badKeys).symm
    rw [toDefinition_bad (by rw [keys, List.head?_cons]),
      toDefinition_bad (by rw [keys', List.head?_cons])]
    rfl
  · obtain ⟨d, e, made, made', agree, -⟩ := reordered.definitions_agree listed good
    rw [made, made']
    exact { agree with info := fun code _ => agree.info code (settled_of_alike alike code) }

end Reordering

/-- What is determined by a document whose maps are listed in any order. If all keys of
information texts are codes then the definition is, up to the texts of codes that
several keys with different texts read as, for which the last of them counts. Else there
is an error, and it names a key that is no code. So the order is of no account just if
one key alone is no code, or all are and those of one code have one text. -/
theorem toDefinition_in_any_order (document : Document) (listed : document.Listed) :
    (∀ other, document.Reordered other →
      (document.badKeys = [] ∧
        ∃ d e, document.toDefinition = .ok d ∧ other.toDefinition = .ok e ∧
          d.AgreeOn document.Settled e ∧
          ∀ code, e.info? code = (other.textsOf code).getLast?) ∨
      ∃ key ∈ document.badKeys, ∃ second ∈ document.badKeys,
        document.toDefinition = .error (keyError key) ∧
          other.toDefinition = .error (keyError second)) ∧
    ((∀ other, document.Reordered other →
        SameResult document.toDefinition other.toDefinition) ↔ document.Determined) := by
  refine ⟨?_, determined_of_same listed, fun determined _ => same_of_determined listed determined⟩
  intro other reordered
  by_cases keys : document.badKeys = []
  · exact .inl ⟨keys, reordered.definitions_agree listed keys⟩
  · obtain ⟨key, bad, stopped⟩ := error_of_badKeys keys
    have keys' : other.badKeys ≠ [] := fun none => keys (none ▸ reordered.badKeys).eq_nil
    obtain ⟨second, bad', stopped'⟩ := error_of_badKeys keys'
    exact .inr ⟨key, bad, second, reordered.badKeys.mem_iff.mpr bad', stopped, stopped'⟩

def sevenAlike : Document :=
  { empty with
    messages := [("name", [("required", "who?")]), ("age", [("min", "young"), ("max", "old")])]
    info := [("7", "locked"), ("+7", "locked")] }

theorem toDefinition_in_any_order_alike :
    sevenAlike.Listed ∧ sevenAlike.Determined ∧
      ∀ other, sevenAlike.Reordered other →
        SameResult sevenAlike.toDefinition other.toDefinition := by
  have listed : sevenAlike.Listed := ⟨by decide, by decide, by decide⟩
  have determined : sevenAlike.Determined := by decide +kernel
  exact ⟨listed, determined, (toDefinition_in_any_order sevenAlike listed).2.mpr determined⟩

def sevenTwice : Document := { empty with info := [("7", "locked"), (" 7", "open")] }

/-- Listed the other way round, the document has another text for the code. -/
theorem toDefinition_order_matters :
    sevenTwice.Listed ∧
      sevenTwice.Reordered { sevenTwice with info := sevenTwice.info.reverse } ∧
      sevenTwice.toDefinition.toOption.bind (·.info? 7) = some "open" ∧
      ({ sevenTwice with info := sevenTwice.info.reverse } : Document).toDefinition.toOption.bind
        (·.info? 7) = some "locked" ∧
      ¬ ∀ a b : Document, a.Listed → a.Reordered b →
        SameResult a.toDefinition b.toDefinition := by
  have listed : sevenTwice.Listed := ⟨by decide, by decide, by decide⟩
  have reordered : sevenTwice.Reordered { sevenTwice with info := sevenTwice.info.reverse } :=
    .ofInfo (List.reverse_perm _).symm
  refine ⟨listed, reordered, by decide +kernel, by decide +kernel, fun same => ?_⟩
  have agree : SameResult (.ok _) (.ok _) := same _ _ listed reordered
  exact absurd (agree.info 7 trivial) (by decide +kernel)

end Document

end FieldRules
