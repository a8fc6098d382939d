import FieldRules.Run
import FieldRules.Proofs.DocumentOrder

/-! Documents and the definitions that programs build. What a document says can be said
by calls of a program as well: a declaration for each of its fields that is one, a call
for each template and for each information text, in any order, and the codes and texts
that it gives in place of the defaults. Runs cannot tell the two definitions apart. -/
namespace FieldRules

namespace Numeral

def Decimal (digits : List Char) : Prop := digits ≠ [] ∧ ∀ c ∈ digits, isDigit c = true

/-- A text is the decimal numeral of an integer, with or without a sign. -/
inductive Writes : List Char → Int → Prop where
  | plain {digits : List Char} : Decimal digits → Writes digits (ofDigits digits)
  | plus {digits : List Char} : Decimal digits → Writes ('+' :: digits) (ofDigits digits)
  | minus {digits : List Char} : Decimal digits → Writes ('-' :: digits) (-ofDigits digits)

theorem not_decimal_iff (digits : List Char) :
    (digits.isEmpty = true ∨ (!digits.all isDigit) = true) ↔ ¬ Decimal digits := by
  simp [Decimal, or_iff_not_imp_left]

theorem takeSign_decimal {digits : List Char} (decimal : Decimal digits) :
    takeSign digits = (false, digits) := by
  have all := decimal.2
  unfold takeSign
  split
  · exact absurd (all '-' List.mem_cons_self) (by decide)
  · exact absurd (all '+' List.mem_cons_self) (by decide)
  · rfl

theorem int?_of_takeSign {text digits : List Char} {negative : Bool}
    (taken : takeSign text = (negative, digits)) (n : Int) :
    int? text = some n ↔
      Decimal digits ∧ n = if negative then -(ofDigits digits : Int) else ofDigits digits := by
  rw [int?, taken]
  dsimp only
  split
  · next other => simp [(not_decimal_iff digits).mp other]
  · next decimal =>
    rw [not_decimal_iff, not_not] at decimal
    rw [Option.some.injEq, eq_comm, and_iff_right decimal]

/-- Numerals are read, and nothing else is. -/
theorem int?_eq_some_iff (text : List Char) (n : Int) : int? text = some n ↔ Writes text n := by
  constructor
  · intro read
    cases taken : takeSign text with
    | mk negative digits =>
      obtain ⟨decimal, rfl⟩ := (int?_of_takeSign taken n).mp read
      unfold takeSign at taken
      split at taken <;> cases taken
      · exact .minus decimal
      · exact .plus decimal
      · exact .plain decimal
  · rintro (decimal | decimal | decimal)
    · exact (int?_of_takeSign (takeSign_decimal decimal) _).mpr ⟨decimal, rfl⟩
    · exact (int?_of_takeSign rfl _).mpr ⟨decimal, rfl⟩
    · exact (int?_of_takeSign rfl _).mpr ⟨decimal, rfl⟩

end Numeral

namespace Schema

def declarationsAmong (attributes : List (String × Json)) : List (String × String) :=
  attributes.filterMap fun (name, value) =>
    match value with
    | .string source => if isReserved name then none else some (name, source)
    | _ => none

theorem discover_eq (attributes : List (String × Json)) :
    discover attributes = ofDeclarations (declarationsAmong attributes) := by
  rw [discover, ofDeclarations, declarationsAmong, List.foldl_filterMap]
  refine congrArg (fun step => attributes.foldl step empty) (funext₂ fun schema entry => ?_)
  obtain ⟨name, value⟩ := entry
  cases value with
  | string source =>
    simp only [declareAttribute]
    cases isReserved name <;> rfl
  | _ => rfl

end Schema

namespace Document

def codes (document : Document) : List (Code × String) :=
  document.info.filterMap fun (key, text) => (code? key).map fun code => (code, text)

/-- The definition that a program builds to say what a document says, with its calls for
templates and for information texts in a given order. -/
def built (document : Document) (templates : List Note) (texts : List (Code × String)) :
    Definition :=
  let start := Definition.ofSchema
    (Schema.ofDeclarations (Schema.declarationsAmong document.fields))
  let worded := templates.foldl (fun d note => d.withMessage note.field note.rule note.text) start
  let informed := texts.foldl (fun d (code, text) => d.withInfo code text) worded
  (informed.withCodes (document.failedCode.getD defaultFailedCode)
      (document.succeedCode.getD defaultSucceedCode)).withDefaultInfo
    (document.failedInfo.getD defaultFailedInfo) (document.succeedInfo.getD defaultSucceedInfo)

/-- A key reads as a code just if it writes that code, leaving out white space around it. -/
theorem code?_eq_some_iff (key : String) (code : Code) :
    code? key = some code ↔ Numeral.Writes (Text.trimChars key.toList) code.toInt := by
  rw [← Numeral.int?_eq_some_iff, code?, Option.bind_eq_some_iff]
  constructor
  · rintro ⟨n, read, fits⟩
    rw [codeOfInt?] at fits
    split at fits
    · next bounds =>
      obtain rfl := Option.some.inj fits
      have upper : Int32.maxValue.toInt < 2 ^ 31 := Int32.toInt_lt _
      have lower : -2 ^ 31 ≤ Int32.minValue.toInt := Int32.le_toInt _
      rw [read, Int32.toInt_ofInt_of_le (by omega) (by omega)]
    · contradiction
  · intro read
    refine ⟨_, read, ?_⟩
    rw [codeOfInt?, if_pos ⟨Int32.minValue_le_toInt code, Int32.toInt_le code⟩, Int32.ofInt_toInt]

theorem foldl_withMessage (templates : List Note) (d : Definition) :
    templates.foldl (fun d note => d.withMessage note.field note.rule note.text) d =
      { d with overrides := ⟨templates.foldl Messages.addNote d.overrides.templates⟩ } := by
  induction templates generalizing d with
  | nil => rfl
  | cons note rest ih =>
    rw [List.foldl_cons, ih]
    rfl

theorem foldl_withInfo (texts : List (Code × String)) (d : Definition) :
    texts.foldl (fun d (code, text) => d.withInfo code text) d =
      { d with info := texts.foldl (fun info (code, text) => Ordered.put code text info) d.info } := by
  induction texts generalizing d with
  | nil => rfl
  | cons entry rest ih =>
    rw [List.foldl_cons, ih]
    rfl

section Calls

variable {document : Document} {templates : List Note} {texts : List (Code × String)}

theorem built_eq :
    document.built templates texts =
      { schema := Schema.discover document.fields
        overrides := ⟨Messages.ofNotes templates⟩
        info := Ordered.ofList texts
        failedCode := document.failedCode.getD defaultFailedCode
        succeedCode := document.succeedCode.getD defaultSucceedCode
        failedInfo := document.failedInfo.getD defaultFailedInfo
        succeedInfo := document.succeedInfo.getD defaultSucceedInfo
        check := none } := by
  rw [built, foldl_withMessage, foldl_withInfo, Schema.discover_eq]
  rfl

theorem textsOf_eq (code : Code) :
    document.textsOf code = (document.codes.filter fun entry => entry.1 = code).map Prod.snd := by
  rw [textsOf, codes, List.filter_filterMap, List.map_filterMap, ← List.filterMap_eq_filter,
    List.map_filterMap]
  refine congrArg (fun pick => document.info.filterMap pick) (funext fun entry => ?_)
  obtain ⟨key, text⟩ := entry
  cases read : code? key with
  | none => simp [read]
  | some own => by_cases same : own = code <;> simp [read, same, Option.filter, Option.guard]

/-- The order of the calls is of no account as no two of them are for the same. -/
theorem Listed.makes_built (listed : document.Listed)
    (distinct : (Ordered.keys document.codes).Nodup) (worded : templates.Perm document.notes)
    (informed : texts.Perm document.codes) :
    document.Makes (document.built templates texts) := by
  rw [built_eq]
  refine ⟨rfl, ?_, ?_, rfl, rfl, rfl, rfl, rfl⟩
  · intro field rule
    rw [listed.getLast?_notes worded.symm]
    exact (Messages.reflects_ofNotes templates).text field rule
  · intro code
    -- the last text put under a code counts on both sides, and there is one at most
    rw [textsOf_eq, List.getLast?_map]
    change Ordered.get? code (Ordered.ofList texts) = _
    rw [Ordered.get?_ofList, getLast?_eq_of_perm (informed.filter _)]
    rintro ⟨own, text⟩ member ⟨own', other⟩ member'
    simp only [List.mem_filter, decide_eq_true_eq] at member member'
    obtain ⟨member, rfl⟩ := member
    obtain ⟨member', rfl⟩ := member'
    rw [Ordered.eq_of_mem distinct (informed.mem_iff.mp member) (informed.mem_iff.mp member')]

theorem Makes.policy_eq {d e : Definition} (made : document.Makes d) (made' : document.Makes e) :
    d.policy = e.policy := by
  have template : d.overrides.get? = e.overrides.get? :=
    funext₂ fun field rule => (made.template field rule).trans (made'.template field rule).symm
  have info : d.info? = e.info? := funext fun code => (made.info code).trans (made'.info code).symm
  simp only [Definition.policy, Definition.resolveInfo, template, info, made.schema, made'.schema,
    made.failedCode, made'.failedCode, made.succeedCode, made'.succeedCode, made.failedInfo,
    made'.failedInfo, made.succeedInfo, made'.succeedInfo, made.check, made'.check]

end Calls

/-- Runs cannot tell a document's definition from a built one if its keys all read as codes, no
two as the same: a program declares those fields that are declarations, makes a call for each
template and each information text, in any order, and gives the codes and texts that the
document gives. A document with a key that is no code is refused, whatever else it says. A key is
a code just if it writes one, leaving out white space around it. -/
theorem toDefinition_as_built (document : Document) :
    (document.Listed → document.badKeys = [] → (Ordered.keys document.codes).Nodup →
      ∃ d, document.toDefinition = .ok d ∧
        ∀ templates texts, templates.Perm document.notes → texts.Perm document.codes →
          d.policy = (document.built templates texts).policy ∧
            ∀ registry source absent, validate registry d.policy source absent =
              validate registry (document.built templates texts).policy source absent) ∧
      (document.badKeys ≠ [] →
        ∃ key ∈ document.badKeys, document.toDefinition = .error (keyError key)) ∧
      ∀ key code, code? key = some code ↔
        Numeral.Writes (Text.trimChars key.toList) code.toInt := by
  refine ⟨?_, error_of_badKeys, code?_eq_some_iff⟩
  intro listed good distinct
  obtain ⟨d, made, makes⟩ := toDefinition_good good
  refine ⟨d, made, fun templates texts worded informed => ?_⟩
  have same : d.policy = (document.built templates texts).policy :=
    makes.policy_eq (listed.makes_built distinct worded informed)
  exact ⟨same, fun registry source absent => by rw [same]⟩

def memberFile : Document :=
  { empty with
    fields := [("name", .string "required"), ("__note", .string "min:1"), ("size", .bool true),
      ("age", .string "min:18")]
    messages := [("name", [("required", "who?")]), ("age", [("min", "young"), ("max", "old")])]
    info := [(" 7", "locked"), ("+8", "open"), ("-2147483648", "lost")]
    failedCode := some 7
    succeedInfo := some "fine" }

theorem toDefinition_as_built_members :
    memberFile.Listed ∧ memberFile.badKeys = [] ∧
      Ordered.keys memberFile.codes = [7, 8, -2147483648] ∧
      (∃ d, memberFile.toDefinition = .ok d ∧ ∀ registry source absent,
        validate registry d.policy source absent =
          validate registry
            (memberFile.built memberFile.notes.reverse memberFile.codes.reverse).policy source
              absent) ∧
      { memberFile with info := [("8", "open"), ("2147483648", "over")] }.toDefinition =
        .error (keyError "2147483648") := by
  have listed : memberFile.Listed := ⟨by decide, by decide, by decide⟩
  have good : memberFile.badKeys = [] := by decide +kernel
  have codes : Ordered.keys memberFile.codes = [7, 8, -2147483648] := by decide +kernel
  refine ⟨listed, good, codes, ?_, ?_⟩
  · obtain ⟨d, made, alike⟩ := (toDefinition_as_built memberFile).1 listed good
      (codes ▸ by decide)
    exact ⟨d, made, (alike _ _ (List.reverse_perm _) (List.reverse_perm _)).2⟩
  · have bad : ({ memberFile with info := [("8", "open"), ("2147483648", "over")] } :
        Document).badKeys = ["2147483648"] := by decide +kernel
    obtain ⟨key, member, refused⟩ := (toDefinition_as_built _).2.1 (bad ▸ List.cons_ne_nil _ _)
    rw [bad, List.mem_singleton] at member
    rw [refused, member]

end Document

end FieldRules
