import FieldRules.Document
import FieldRules.Proofs.Messages

/-! What a document makes of its maps. A template is told by the last entry for its
field and rule, an information text by the last key that reads as its code, and a
key that reads as none refuses the whole document. -/
namespace FieldRules.Document

/-- The message templates of a document, one note for each entry. -/
def notes (document : Document) : List Note :=
  document.messages.flatMap fun (field, rules) =>
    rules.map fun (rule, template) => ⟨field, rule, template⟩

def badKeys (document : Document) : List String :=
  (document.info.map Prod.fst).filter fun key => code? key = none

def textsOf (document : Document) (code : Code) : List String :=
  (document.info.filter fun (key, _) => code? key = some code).map Prod.snd

/-- What a definition has from a document, said without the order of its construction. -/
structure Makes (document : Document) (d : Definition) : Prop where
  schema : d.schema = Schema.discover document.fields
  template : ∀ field rule, d.overrides.get? field rule =
    ((document.notes.filter fun note => note.field = field ∧ note.rule = rule).getLast?).map
      Note.text
  info : ∀ code, d.info? code = (document.textsOf code).getLast?
  failedCode : d.failedCode = document.failedCode.getD defaultFailedCode
  succeedCode : d.succeedCode = document.succeedCode.getD defaultSucceedCode
  failedInfo : d.failedInfo = document.failedInfo.getD defaultFailedInfo
  succeedInfo : d.succeedInfo = document.succeedInfo.getD defaultSucceedInfo
  check : d.check = none

theorem insertRules_eq (field : String) (rules : List (String × String)) (overrides : Overrides) :
    rules.foldl (fun overrides (rule, template) => overrides.insert field rule template)
        overrides =
      ⟨(rules.map fun (rule, template) => (⟨field, rule, template⟩ : Note)).foldl
        Messages.addNote overrides.templates⟩ := by
  induction rules generalizing overrides with
  | nil => rfl
  | cons entry rest ih =>
    rw [List.foldl_cons, ih]
    rfl

theorem overrides_eq (document : Document) :
    document.overrides = ⟨Messages.ofNotes document.notes⟩ := by
  suffices onward : ∀ (messages : List (String × List (String × String))) (overrides : Overrides),
      messages.foldl (fun overrides (field, rules) => rules.foldl
        (fun overrides (rule, template) => overrides.insert field rule template) overrides)
          overrides =
        ⟨(messages.flatMap fun (field, rules) => rules.map fun (rule, template) =>
          (⟨field, rule, template⟩ : Note)).foldl Messages.addNote overrides.templates⟩ from
    onward document.messages Overrides.empty
  intro messages
  induction messages with
  | nil => exact fun _ => rfl
  | cons entry rest ih =>
    intro overrides
    obtain ⟨field, rules⟩ := entry
    rw [List.foldl_cons, ih, List.flatMap_cons, List.foldl_append]
    simp only [insertRules_eq]

theorem get?_overrides (document : Document) (field rule : String) :
    document.overrides.get? field rule =
      ((document.notes.filter fun note => note.field = field ∧ note.rule = rule).getLast?).map
        Note.text := by
  rw [overrides_eq]
  exact (Messages.reflects_ofNotes document.notes).text field rule

/-- The first key that is no code ends the document. -/
theorem addInfo_bad {entries : List (String × String)} {key : String}
    (first : ((entries.map Prod.fst).filter fun key => code? key = none).head? = some key)
    (d : Definition) : addInfo d entries = .error (keyError key) := by
  induction entries generalizing d with
  | nil => contradiction
  | cons entry rest ih =>
    obtain ⟨head, text⟩ := entry
    rw [addInfo]
    cases read : code? head with
    | none =>
      rw [List.map_cons, List.filter_cons_of_pos (by simpa using read)] at first
      simp only [List.head?_cons, Option.some.injEq] at first
      rw [first]
    | some code =>
      rw [List.map_cons, List.filter_cons_of_neg (by simp [read])] at first
      exact ih first _

/-- Keys that are all codes are all taken over, and nothing but the texts changes. -/
theorem addInfo_good {entries : List (String × String)}
    (good : (entries.map Prod.fst).filter (fun key => code? key = none) = []) (d : Definition) :
    ∃ info, addInfo d entries = .ok { d with info } ∧
      ∀ code, Ordered.get? code info =
        (((entries.filter fun (key, _) => code? key = some code).map Prod.snd).getLast?).or
          (d.info? code) := by
  induction entries generalizing d with
  | nil => exact ⟨d.info, rfl, fun _ => rfl⟩
  | cons entry rest ih =>
    obtain ⟨head, text⟩ := entry
    cases read : code? head with
    | none =>
      rw [List.map_cons, List.filter_cons_of_pos (by simpa using read)] at good
      contradiction
    | some own =>
      rw [List.map_cons, List.filter_cons_of_neg (by simp [read])] at good
      obtain ⟨info, added, found⟩ := ih good (d.withInfo own text)
      refine ⟨info, ?_, ?_⟩
      · rw [addInfo, read]
        exact added
      · intro code
        rw [found, Definition.info?, Definition.withInfo, Ordered.get?_put]
        by_cases here : own = code
        · subst here
          rw [if_pos rfl, List.filter_cons_of_pos (by simpa using read), List.map_cons,
            List.getLast?_cons]
          cases ((rest.filter fun (key, _) => code? key = some own).map Prod.snd).getLast? <;> rfl
        · rw [if_neg here, List.filter_cons_of_neg (by simpa [read] using here)]
          rfl

theorem toDefinition_bad {document : Document} {key : String}
    (first : document.badKeys.head? = some key) :
    document.toDefinition = .error (keyError key) := by
  rw [toDefinition, addInfo_bad first]

theorem toDefinition_good {document : Document} (good : document.badKeys = []) :
    ∃ d, document.toDefinition = .ok d ∧ document.Makes d := by
  obtain ⟨info, added, found⟩ := addInfo_good good
    ((Definition.ofSchema (Schema.discover document.fields)).withOverrides document.overrides)
  simp only [toDefinition, added]
  refine ⟨_, rfl, rfl, document.get?_overrides, ?_, rfl, rfl, rfl, rfl, rfl⟩
  intro code
  exact (found code).trans (Option.or_none)

end FieldRules.Document
