import FieldRules.Pattern.Search

/-!
The patterns of the format rules, and the formats themselves without patterns. Each pattern spans
the whole text.
-/

namespace FieldRules.Pattern

def asciiDigits : CharSet := ⟨[(0x30, 0x39)]⟩

def asciiLetters : CharSet := ⟨[(0x41, 0x5a), (0x61, 0x7a)]⟩

def asciiAlphanumerics : CharSet := ⟨[(0x30, 0x39), (0x41, 0x5a), (0x61, 0x7a)]⟩

def hexDigits : CharSet := ⟨[(0x30, 0x39), (0x41, 0x46), (0x61, 0x66)]⟩

def labelChars : CharSet := ⟨[(0x2d, 0x2d), (0x30, 0x39), (0x41, 0x5a), (0x61, 0x7a)]⟩

/-- Letters, digits, the point and the marks that the local part of an address may hold. -/
def localChars : CharSet :=
  CharSet.union asciiAlphanumerics (CharSet.ofChars ".!#$%&'*+/=?^_`\x7b|\x7d~-".toList)

def whole (p : Pattern) : Pattern := .seq (.look .textStart) (.seq p (.look .textEnd))

/-- A label of a domain: at most 63 letters, digits and inner hyphens. -/
def label : Pattern :=
  .seq (.set asciiAlphanumerics)
    (optional (.seq (.times 0 61 (.set labelChars)) (.set asciiAlphanumerics)))

def domain : Pattern := .seq label (.star (.seq (single '.') label))

def email : Pattern := whole (.seq (plus (.set localChars)) (.seq (single '@') domain))

def visibleChars : CharSet := CharSet.complement ⟨Text.blankRanges⟩

/-- Characters that the host of an address may start with. -/
def hostStart : CharSet := visibleChars.difference (CharSet.ofChars ['/', '$', '.', '?', '#'])

def url : Pattern :=
  whole (seqAll [literal "http".toList, optional (single 's'), literal "://".toList,
    .set hostStart, .set (CharSet.single '\n').complement, .star (.set visibleChars)])

def hexGroup (count : Nat) : Pattern := .times count count (.set hexDigits)

def uuid : Pattern :=
  whole (seqAll [hexGroup 8, single '-', hexGroup 4, single '-', hexGroup 4, single '-',
    hexGroup 4, single '-', hexGroup 12])

def alpha : Pattern := whole (plus (.set asciiLetters))

def alphaNum : Pattern := whole (plus (.set asciiAlphanumerics))

def numeric : Pattern := whole (plus (.set asciiDigits))

end FieldRules.Pattern

namespace FieldRules.Format

/-- A text of at least one character, all of which pass a test. -/
def Over (test : Char → Bool) (text : List Char) : Prop :=
  text ≠ [] ∧ ∀ c ∈ text, test c = true

/-- The marks that the local part of an address may hold besides ASCII letters and digits. -/
def localMarks : List Char := ".!#$%&'*+/=?^_`\x7b|\x7d~-".toList

def isLocalChar (c : Char) : Bool := c.isAlphanum || localMarks.contains c

def isLabelChar (c : Char) : Bool := c.isAlphanum || c == '-'

def isHexDigit (c : Char) : Bool :=
  c.isDigit || (decide ('a' ≤ c) && decide (c ≤ 'f')) || (decide ('A' ≤ c) && decide (c ≤ 'F'))

/-- A label of a domain: 1 to 63 ASCII letters, digits and hyphens, with no hyphen at either
end. -/
def Label (text : List Char) : Prop :=
  Over isLabelChar text ∧ text.length ≤ 63 ∧ text.head? ≠ some '-' ∧ text.getLast? ≠ some '-'

/-- A domain: labels with points between them. -/
inductive Domain : List Char → Prop where
  | label {text} (valid : Label text) : Domain text
  | more {first rest} (valid : Label first) (domain : Domain rest) : Domain (first ++ '.' :: rest)

/-- A mail address: a local part, an at sign and a domain. -/
def Email (text : List Char) : Prop :=
  ∃ name domain, text = name ++ '@' :: domain ∧ Over isLocalChar name ∧ Domain domain

def HexGroup (count : Nat) (text : List Char) : Prop :=
  text.length = count ∧ ∀ c ∈ text, isHexDigit c = true

/-- Five groups of hexadecimal digits with hyphens between them. -/
def Uuid (text : List Char) : Prop :=
  ∃ a b c d e, text = a ++ '-' :: (b ++ '-' :: (c ++ '-' :: (d ++ '-' :: e))) ∧
    HexGroup 8 a ∧ HexGroup 4 b ∧ HexGroup 4 c ∧ HexGroup 4 d ∧ HexGroup 12 e

/-- What counts as an address of a page: a scheme, a first character of the host, one character
of whatever kind but a line feed, and then no white space any more. -/
def Url (text : List Char) : Prop :=
  ∃ scheme host second rest, text = scheme ++ host :: second :: rest ∧
    (scheme = "http://".toList ∨ scheme = "https://".toList) ∧
    Text.isBlank host = false ∧ host ∉ ['/', '$', '.', '?', '#'] ∧ second ≠ '\n' ∧
    ∀ c ∈ rest, Text.isBlank c = false

end FieldRules.Format
