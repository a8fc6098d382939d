import FieldRules.Unicode.Age
import FieldRules.Unicode.Category
import FieldRules.Unicode.Folding
import FieldRules.Unicode.Property
import FieldRules.Unicode.Script
import FieldRules.Unicode.Segment

/-!
Sets of characters by the name of a Unicode property, and the sets of digits, word characters and
printable characters built from them.
-/

namespace FieldRules.Unicode

/-- The loose form of a property name: lower case, without blanks, hyphens, underscores, characters
outside ASCII and an initial `is`. The short name of ISO comments, a property without a table, keeps
its initial letters, so no spelling of it selects the category named by its last letter. -/
def looseName (name : List Char) : String :=
  let loose (text : List Char) : List Char :=
    (text.filter fun c => c.toNat ≤ 0x7f ∧ c ≠ ' ' ∧ c ≠ '_' ∧ c ≠ '-').map Char.toLower
  match name with
  | i :: s :: rest =>
    if i.toLower = 'i' ∧ s.toLower = 's' then
      if loose rest = ['c'] then "isc" else String.ofList (loose rest)
    else String.ofList (loose name)
  | _ => String.ofList (loose name)

/-- The set that a lone name selects: that of a property, of a category or of a script. -/
def byName? (name : List Char) : Option CharSet :=
  let loose := looseName name
  match Property.ranges? loose with
  | some set => some set
  | none =>
    match Category.ranges? loose with
    | some set => some set
    | none => Script.ranges? loose

/-- The set that a property name with a value selects. -/
def byValue? (property value : List Char) : Option CharSet :=
  let value := looseName value
  match looseName property with
  | "gc" | "generalcategory" => Category.ranges? value
  | "sc" | "script" => Script.ranges? value
  | "scx" | "scriptextensions" => Script.extendedRanges? value
  | "age" => Age.ranges? value
  | "gcb" | "graphemeclusterbreak" => Entry.find? Segment.graphemeParts value
  | "wb" | "wordbreak" => Entry.find? Segment.wordParts value
  | "sb" | "sentencebreak" => Entry.find? Segment.sentenceParts value
  | _ => none

/-- The union of categories given by loose names. -/
def categories (names : List String) : CharSet :=
  CharSet.unionAll (names.filterMap Category.ranges?)

/-- Decimal digits of every script. -/
def digits : CharSet := categories ["nd"]

/-- Letters of every script, in the wide sense. -/
def alphabetic : CharSet := (Property.ranges? "alphabetic").getD CharSet.empty

/-- Letters, marks, decimal digits, connecting punctuation and the two join controls. -/
def wordChars : CharSet :=
  CharSet.unionAll [alphabetic, categories ["m", "nd", "pc"], ⟨[(0x200c, 0x200d)]⟩]

/-- Letters and numbers of every kind. -/
def alphanumeric : CharSet := alphabetic.union (categories ["n"])

/-- Characters that extend the one before them. -/
def graphemeExtending : CharSet := (Property.ranges? "graphemeextend").getD CharSet.empty

/-- Characters with no glyph of their own: controls, formats, separators other than the space, and
code points that are private or unassigned. -/
def unprintable : CharSet :=
  (categories ["cc", "cf", "cn", "co", "z"]).difference (CharSet.single ' ')

end FieldRules.Unicode
